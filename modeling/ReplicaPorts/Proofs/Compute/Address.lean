import ReplicaPorts.Payload.Names
import ReplicaPorts.Payload.Validation
import ReplicaPorts.Proofs.Compute.Protocol
import ReplicaPorts.Proofs.Http.Segment

/-!
# Where calls go

Nobody checks the prefix of a payload, and the names that are made of it are put into paths as they
are. `names_addressed` says what comes of that: the first request of a call goes to the resource
that the call is about (`Addresses`) exactly if the prefix is addressable; the name of a resource
that is created is in the body, where it can be anything. Two names that are addressed are never
taken for each other.
-/

set_option autoImplicit false

namespace ReplicaPorts

open Http (Wire Peer Request Url exchanges)

/-! ## Names -/

namespace Names

/-- The names of all resources. -/
def all (names : Names) : List String :=
  [names.service, names.firewall, names.group, names.backend, names.rule, names.attachment]

/-- What the resources of a workload are for. -/
def purposes : List String :=
  ["nodeport", "firewall", "neg", "backend", "forwarding-rule", "service-attachment"]

/-- What follows the prefix in a name: it is long enough for the name to stand for itself, it starts
with no digit that could finish an escape, and nothing in it breaks a path up. -/
structure IsEnding (cs : List Char) : Prop where
  long : 6 < cs.length
  start : cs.head? = some 'p'
  last : cs.getLast?.all Http.isVisible = true
  addressable : Url.IsAddressable cs

theorem isEnding : ∀ purpose ∈ purposes, IsEnding ("psc-portmapper-" ++ purpose).toList := by
  intro purpose mem
  refine ⟨?_, ?_, ?_, .of_all ?_ ?_⟩ <;> revert purpose <;> decide

variable {namePrefix name : String}

/-- Every name is the prefix with an ending. -/
theorem exists_ending (named : name ∈ (Names.of namePrefix).all) :
    ∃ ending, IsEnding ending ∧ name.toList = namePrefix.toList ++ ending := by
  have made : (Names.of namePrefix).all =
      purposes.map fun purpose => namePrefix ++ ("psc-portmapper-" ++ purpose) := by
    simp [all, Names.of, purposes, toString, String.append_assoc]
  rw [made] at named
  obtain ⟨purpose, mem, rfl⟩ := List.mem_map.mp named
  exact ⟨_, isEnding purpose mem, String.toList_append⟩

theorem isName (named : name ∈ (Names.of namePrefix).all) : Url.IsName name.toList := by
  obtain ⟨ending, ends, written⟩ := exists_ending named
  have long := ends.long
  rw [written]
  refine ⟨Url.isDots_of_length ?_, ?_⟩
  · rw [List.length_append]
    omega
  · rw [List.getLast?_append_of_ne_nil _ (List.ne_nil_of_length_pos (by omega))]
    exact (Option.all_eq_true _ _).mp ends.last

/-- A name is addressable if and only if its prefix is. -/
theorem isAddressable_iff (named : name ∈ (Names.of namePrefix).all) :
    Url.IsAddressable name.toList ↔ Url.IsAddressable namePrefix.toList := by
  obtain ⟨ending, ends, written⟩ := exists_ending named
  obtain ⟨rest, rfl⟩ := List.head?_eq_some_iff.mp ends.start
  have literal := Text.Percent.hasEscape_append namePrefix.toList
    (show Text.Percent.isHex 'p' = false by decide) rest
  rw [ends.addressable.literal, Bool.or_false] at literal
  rw [written]
  constructor
  · intro h
    exact ⟨(List.forall_mem_append.mp h.whole).1, literal ▸ h.literal⟩
  · intro h
    exact ⟨List.forall_mem_append.mpr ⟨h.whole, ends.addressable.whole⟩, literal.trans h.literal⟩

end Names

namespace Compute

/-! ## Calls -/

namespace Call

/-- The kind of the resource that a call is about. -/
def kind : Call → Kind
  | get kind _ => kind
  | create _ design => design.kind
  | updateFirewall _ _ => .firewall
  | delete kind _ => kind
  | listEndpoints _ => .group
  | attachEndpoints _ _ => .group
  | detachEndpoints _ _ => .group

/-- What is to be done with the resource, where the method of the request does not tell. -/
def verb : Call → Option String
  | listEndpoints _ => some "listNetworkEndpoints"
  | attachEndpoints _ _ => some "attachNetworkEndpoints"
  | detachEndpoints _ _ => some "detachNetworkEndpoints"
  | _ => none

/-- Whether a call is about a resource that is not there yet. -/
def isCreate : Call → Bool
  | create _ _ => true
  | _ => false

end Call

namespace Rest

variable {c : Client} {s : Scope} {o root id : String} {call : Call} {url : Url}

/-- The query of the first request of a call. -/
def firstQuery (call : Call) (id : String) : Option String :=
  if call.isWrite then some ("requestId=" ++ id) else none

/-- A URL is that of the resource which a call is about, or of the collection if the call creates
it: the name is one segment, with what is to be done behind it, and nothing else is asked than the
call asks. -/
structure Addresses (s : Scope) (o root : String) (call : Call) (id : String) (url : Url) :
    Prop where
  origin : url.origin = o
  query : url.query = firstQuery call id
  path : if call.isCreate then url.path = root ++ "/" ++ Path.collection s.place call.kind
    else ∃ segment, Url.Spells segment call.target ∧
      url.path = root ++ "/" ++ Url.pathTo (Path.collection s.place call.kind) segment call.verb

/-- Where a call is about one resource, a URL is that of the resource if and only if it is the
path of a segment that spells the name. -/
theorem addresses_iff (there : call.isCreate = false) :
    Addresses s o root call id url ↔ ∃ segment, Url.Spells segment call.target ∧
      url = ⟨o, root ++ "/" ++ Url.pathTo (Path.collection s.place call.kind) segment call.verb,
        firstQuery call id⟩ := by
  constructor
  · rintro ⟨origin, query, path⟩
    rw [there, if_neg Bool.false_ne_true] at path
    obtain ⟨segment, spells, path⟩ := path
    obtain ⟨_, _, _⟩ := url
    obtain rfl := origin
    obtain rfl := query
    obtain rfl := path
    exact ⟨segment, spells, rfl⟩
  · rintro ⟨segment, spells, rfl⟩
    refine ⟨rfl, rfl, ?_⟩
    rw [there, if_neg Bool.false_ne_true]
    exact ⟨segment, spells, rfl⟩

/-- What is addressed tells what it is named. -/
theorem Addresses.target_eq {call' : Call} {id' : String} {url' : Url}
    (h : Addresses s o root call id url) (h' : Addresses s o root call' id' url')
    (kinds : call.kind = call'.kind) (there : call.isCreate = false)
    (there' : call'.isCreate = false) (same : url.path = url'.path) :
    call.target = call'.target := by
  obtain ⟨segment, spells, rfl⟩ := (addresses_iff there).mp h
  obtain ⟨segment', spells', rfl⟩ := (addresses_iff there').mp h'
  rw [← kinds] at same
  obtain rfl := Url.segment_of_pathTo spells.single spells'.single
    ((String.append_right_inj _).mp same)
  exact spells.unique spells'

/-! ## First requests -/

/-- The path at which a call is asked for first. -/
def firstPath (s : Scope) (call : Call) (id : String) : String :=
  if call.isWrite then withId (opening s call).path id else (opening s call).path

theorem opening_path (s : Scope) (call : Call) : (opening s call).path =
    if call.isCreate then Path.collection s.place call.kind
    else Url.pathTo (Path.collection s.place call.kind) call.target call.verb := by
  cases call <;>
    simp [opening, verbPath, Path.resource, Call.isCreate, Call.kind, Call.target, Call.verb,
      Url.pathTo, toString, String.append_assoc]

theorem verb_plain (call : Call) : ∀ v ∈ call.verb, Url.isSegment v.toList = true ∧
    Text.Percent.hasEscape v.toList = false := by
  cases call <;> simp only [Call.verb] <;> rintro v ⟨⟩ <;> decide

theorem urlOf_firstPath (h : IsPlainScope s o root) (call : Call) (id : String) :
    urlOf (baseOf s.endpoint) (firstPath s call id) =
      o ++ root ++ "/" ++ (opening s call).path ++ (firstQuery call id).elim "" ("?" ++ ·) := by
  have start := head?_opening s call
  unfold firstPath firstQuery
  split
  · exact urlOf_withId h start id
  · rw [urlOf_below _ start, h.base, Option.elim_none, String.append_empty]

theorem inQuery_firstQuery (plain : ∀ c ∈ id.toList, Url.inQuery c = true) (call : Call) :
    ∀ q ∈ firstQuery call id, ∀ c ∈ q.toList, Url.inQuery c = true := by
  unfold firstQuery
  split
  · rintro q ⟨⟩
    exact inQuery_requestId plain
  · rintro q ⟨⟩

/-- The path of a first request is read as a URL, which is where it should be exactly if the name is
addressable or no name is in it. -/
theorem exists_url (h : IsPlainScope s o root) (named : Url.IsName call.target.toList)
    (plain : ∀ c ∈ id.toList, Url.inQuery c = true) :
    ∃ url, Url.ofText? (urlOf (baseOf s.endpoint) (firstPath s call id)) = some url ∧
      (Addresses s o root call id url ↔
        call.isCreate = true ∨ Url.IsAddressable call.target.toList) := by
  have asked := inQuery_firstQuery plain call
  obtain ⟨whole, below, front⟩ := exists_below h (isPlain_collection h call.kind)
  rw [urlOf_firstPath h, opening_path]
  cases create : call.isCreate with
  | true =>
    have written : o ++ root ++ "/" ++ Path.collection s.place call.kind = o ++ "/" ++ whole := by
      simpa only [String.append_assoc] using congrArg (o ++ ·) below
    rw [if_pos rfl, written]
    refine ⟨_, Url.ofText?_plain h.origin front asked, iff_of_true ⟨rfl, rfl, ?_⟩ (.inl rfl)⟩
    rw [if_pos create, below]
  | false =>
    have path (segment : String) :
        root ++ "/" ++ Url.pathTo (Path.collection s.place call.kind) segment call.verb =
          "/" ++ Url.pathTo whole segment call.verb := by
      simp only [Url.pathTo, ← String.append_assoc, below]
    have written : o ++ root ++ "/" ++
        Url.pathTo (Path.collection s.place call.kind) call.target call.verb =
          o ++ "/" ++ Url.pathTo whole call.target call.verb := by
      simpa only [String.append_assoc] using congrArg (o ++ ·) (path call.target)
    obtain ⟨url, read, -⟩ := Url.exists_ofText? h.origin whole named
      (fun v mem => (verb_plain call v mem).1) asked
    rw [if_neg Bool.false_ne_true, written]
    refine ⟨url, read, ?_⟩
    rw [addresses_iff create, ← Url.spells_iff h.origin front named (verb_plain call) asked read]
    simp only [path, Bool.false_eq_true, false_or]

/-- The request to the API that is sent in an event, if one is: only such requests carry a token. -/
def requestOf? (e : Event Wire.asks) : Option Request :=
  match e.op with
  | .send r => if (r.header? "authorization").isSome then some r else none
  | _ => none

/-- The first request to the API of a call. -/
def firstRequest? {σ : Type} (c : Client) (call : Call) (supply : TokenSupply)
    (handle : Handler Wire.asks σ) (s : σ) : Option Request :=
  (((perform c call).run.run supply).trace handle s).findSome? requestOf?

variable {base : String} {key : Option String} {method : Http.Method} {path : String}
  {body : Option Json} {supply supply' : TokenSupply} {t : List (Event Wire.asks)}

theorem requestOf?_fetching {e : Event Wire.asks} (h : TokenSupply.IsFetching e) :
    requestOf? e = none := by
  obtain asked | timed := h
  · rw [requestOf?, asked]
    rfl
  · rw [requestOf?, timed]

/-- What is asked for a token is no request to the API. -/
theorem findSome?_fetch {r : Except Error String} (h : TokenSupply.Fetch key t r) :
    t.findSome? requestOf? = none := by
  refine List.findSome?_eq_none_iff.mpr fun e mem => ?_
  cases h with
  | fixed => cases mem
  | fetched only => exact requestOf?_fetching (only e mem)
  | failed only => exact requestOf?_fetching (only e mem)

/-- How a call starts, once its path is known: its first request is sent with a token, or no request
is. -/
inductive Starts (base : String) (key : Option String) (method : Http.Method) (path : String)
    (body : Option Json) : List (Event Wire.asks) → Prop
  | unsent {t : List (Event Wire.asks)} {e : Error} (h : Unsent base key method path body t e) :
      Starts base key method path body t
  | sent (x : Exchange) (asks : x.Asks base key method path body) (t : List (Event Wire.asks)) :
      Starts base key method path body (x.events ++ t)

theorem findSome?_sent {x : Exchange} (asks : x.Asks base key method path body)
    (t : List (Event Wire.asks)) :
    (x.events ++ t).findSome? requestOf? = some x.request := by
  obtain ⟨-, token, fetch, formed⟩ := asks
  obtain ⟨-, url, -, same⟩ := requestTo?_eq_some_iff.mp formed
  have here : requestOf? x.event = some x.request := by
    rw [Exchange.event, requestOf?, ← same]
    rfl
  rw [Exchange.events, List.append_assoc, List.findSome?_append, findSome?_fetch fetch,
    Option.none_or, List.singleton_append, List.findSome?_cons, here]

/-- The first request to the API is the one that the call starts with. -/
theorem Starts.findSome? (h : Starts base key method path body t) {r : Request}
    (first : t.findSome? requestOf? = some r) :
    ∃ token, requestTo? base path token method body = some r := by
  cases h with
  | unsent unsent =>
    obtain fetch | ⟨_, fetch, -⟩ := unsent
    all_goals
      rw [findSome?_fetch fetch] at first
      cases first
  | sent x asks more =>
    rw [findSome?_sent asks more] at first
    obtain rfl := Option.some.inj first
    obtain ⟨-, token, -, formed⟩ := asks
    exact ⟨token, formed⟩

/-- With a fixed token the request to a path that is read as a URL is sent. -/
theorem Starts.isSome {token : String} (h : Starts base (some token) method path body t)
    (valued : Http.isHeaderValue token = true) (read : Url.ofText? (urlOf base path) = some url) :
    (t.findSome? requestOf?).isSome = true := by
  have formed : ∃ request, requestTo? base path token method body = some request :=
    ⟨_, requestTo?_eq_some_iff.mpr ⟨valued, url, read, rfl⟩⟩
  cases h with
  | unsent unsent =>
    obtain ⟨request, formed⟩ := formed
    cases unsent.of_fixed.2.2.symm.trans formed
  | sent x asks more => rw [findSome?_sent asks more, Option.isSome_some]

theorem starts_of_conversation {xs : List Exchange} {tail : List (Event Wire.asks)}
    {r : Except Error Unit} (h : Conversation base key method path body xs tail r) :
    Starts base key method path body (xs.flatMap Exchange.events ++ tail) := by
  cases h with
  | unsent unsent => exact .unsent unsent
  | held opens =>
    rw [List.flatMap_cons, List.append_assoc]
    exact .sent _ opens _

/-- A listing starts with its first page. -/
theorem path_readPages {pages : Nat} {r : Except Error (List PortMapping)}
    (h : Program.Path ((readPages c base (pages + 1) none).run.run supply) t (r, supply')) :
    Starts (baseOf c.scope.endpoint) supply.fixed? .post base (some Body.empty) t := by
  rw [readPages, run_bind] at h
  obtain ⟨t₁, ⟨got, supply₁⟩, t₂, rfl, sent, rest⟩ := Program.path_bind_iff.mp h
  obtain ⟨-, sending⟩ := path_send sent
  cases sending with
  | unsent unsent =>
    -- without an answer no page is read
    obtain ⟨rfl, -⟩ := Program.path_done_iff.mp rest
    rw [List.append_nil]
    exact .unsent unsent
  | sent x asks => exact .sent x asks t₂

/-- Every call starts with its first request, and one that changes something takes an identifier
before. -/
theorem path_starts {r : Except Error call.Value}
    (h : Program.Path ((perform c call).run.run supply) t (r, supply')) :
    c.maxPages = 0 ∧ t = [] ∨
    ∃ id t', t = (if call.isWrite then [⟨.freshId, id⟩] else []) ++ t' ∧
      Starts (baseOf c.scope.endpoint) supply.fixed? (opening c.scope call).method
        (firstPath c.scope call id) (opening c.scope call).body t' := by
  cases writes : call.isWrite with
  | true =>
    obtain ⟨id, xs, tail, rfl, held⟩ := path_perform writes h
    refine .inr ⟨id, _, rfl, ?_⟩
    rw [firstPath, if_pos writes]
    exact starts_of_conversation held
  | false =>
    have path : ∀ id, firstPath c.scope call id = (opening c.scope call).path := fun id => by
      rw [firstPath, if_neg (by simp [writes])]
    cases call with
    | get kind name =>
      obtain ⟨-, sending⟩ := path_send h
      refine .inr ⟨"", t, rfl, ?_⟩
      rw [path]
      cases sending with
      | unsent unsent => exact .unsent unsent
      | sent x asks =>
        rw [← List.append_nil x.events]
        exact .sent x asks []
    | listEndpoints group =>
      rw [perform] at h
      cases pages : c.maxPages with
      | zero =>
        rw [pages] at h
        obtain ⟨rfl, -⟩ := Program.path_done_iff.mp h
        exact .inl ⟨rfl, rfl⟩
      | succ pages_ =>
        rw [pages] at h
        refine .inr ⟨"", t, rfl, ?_⟩
        rw [path]
        exact path_readPages h
    | create | updateFirewall | delete | attachEndpoints | detachEndpoints => cases writes

section Runs

variable {σ : Type} {handle : Handler exchanges σ} {ids : Nat → String} {p : Peer σ}

/-- Before a peer a call starts with its first request, at the path with the next identifier. -/
theorem firstRequest?_starts (c : Client) (call : Call) (supply : TokenSupply)
    (handle : Handler exchanges σ) (ids : Nat → String) (p : Peer σ) :
    c.maxPages = 0 ∧ firstRequest? c call supply (Peer.answer handle ids) p = none ∨
    ∃ t, firstRequest? c call supply (Peer.answer handle ids) p = t.findSome? requestOf? ∧
      Starts (baseOf c.scope.endpoint) supply.fixed? (opening c.scope call).method
        (firstPath c.scope call (ids p.issued)) (opening c.scope call).body t := by
  have path := Program.path_run (Peer.answer handle ids) ((perform c call).run.run supply) p
  have gives := Program.gives_trace (Peer.answer handle ids) ((perform c call).run.run supply) p
  obtain ⟨pages, none_⟩ | ⟨id, t, asked, starts⟩ := path_starts path
  · exact .inl ⟨pages, by rw [firstRequest?, none_]; rfl⟩
  refine .inr ⟨t, ?_, ?_⟩
  · rw [firstRequest?, asked, List.findSome?_append]
    split <;> rfl
  · cases writes : call.isWrite with
    | true =>
      rw [asked, writes] at gives
      obtain ⟨rfl, -⟩ := Peer.gives_freshId gives
      exact starts
    | false => rwa [firstPath, if_neg (by simp [writes])] at starts ⊢

/-- The URL of the first request is what its path is read as. -/
theorem ofText?_firstRequest {r : Request}
    (first : firstRequest? c call supply (Peer.answer handle ids) p = some r) :
    Url.ofText? (urlOf (baseOf c.scope.endpoint) (firstPath c.scope call (ids p.issued))) =
      some r.url := by
  obtain ⟨-, none_⟩ | ⟨t, same, starts⟩ := firstRequest?_starts c call supply handle ids p
  · rw [none_] at first
    cases first
  · obtain ⟨token, formed⟩ := starts.findSome? (same.symm.trans first)
    obtain ⟨-, url, read, rfl⟩ := requestTo?_eq_some_iff.mp formed
    exact read

end Runs

/-- A call goes where it should: for every prefix, every name that is made of it, and every call on
it, the first request goes to the resource that the call is about exactly if the call creates it or
the prefix is addressable. With a token such a request is sent. And where the prefixes are
addressable, two names of one kind are never taken for each other. -/
theorem names_addressed {c : Client} {o root : String} (plain : IsPlainScope c.scope o root)
    {ids : Nat → String} (fresh : Fresh ids) {call : Call} {namePrefix : String}
    (named : call.target ∈ (Names.of namePrefix).all) (supply : TokenSupply) {σ : Type}
    (handle : Handler exchanges σ) (p : Peer σ) :
    (∀ r, firstRequest? c call supply (Peer.answer handle ids) p = some r →
      (Addresses c.scope o root call (ids p.issued) r.url ↔
        call.isCreate = true ∨ Url.IsAddressable namePrefix.toList)) ∧
    (∀ token, supply = .fixed token → Http.isHeaderValue token = true → c.maxPages ≠ 0 →
      (firstRequest? c call supply (Peer.answer handle ids) p).isSome = true) ∧
    ∀ (call' : Call) (namePrefix' : String) (supply' : TokenSupply) (σ' : Type)
      (handle' : Handler exchanges σ') (p' : Peer σ'),
      call'.target ∈ (Names.of namePrefix').all → call.kind = call'.kind →
      call.isCreate = false → call'.isCreate = false →
      Url.IsAddressable namePrefix.toList → Url.IsAddressable namePrefix'.toList → ∀ r r',
      firstRequest? c call supply (Peer.answer handle ids) p = some r →
      firstRequest? c call' supply' (Peer.answer handle' ids) p' = some r' →
      r.url.path = r'.url.path → call.target = call'.target := by
  have addressed {call : Call} {namePrefix : String} {supply : TokenSupply} {σ : Type}
      {handle : Handler exchanges σ} {p : Peer σ} {r : Request}
      (named : call.target ∈ (Names.of namePrefix).all)
      (first : firstRequest? c call supply (Peer.answer handle ids) p = some r) :
      Addresses c.scope o root call (ids p.issued) r.url ↔
        call.isCreate = true ∨ Url.IsAddressable namePrefix.toList := by
    obtain ⟨url, read, where_⟩ :=
      exists_url plain (Names.isName named) fun c mem => (fresh.plain p.issued c mem).1
    obtain rfl := Option.some.inj (read.symm.trans (ofText?_firstRequest first))
    rwa [← Names.isAddressable_iff named]
  refine ⟨fun r first => addressed named first, fun token fixed valued pages => ?_,
    fun call' namePrefix' supply' σ' handle' p' named' kinds there there' fine fine' r r' first
      first' same => ?_⟩
  · obtain ⟨none_, -⟩ | ⟨t, given, starts⟩ := firstRequest?_starts c call supply handle ids p
    · exact absurd none_ pages
    · subst fixed
      obtain ⟨url, read, -⟩ :=
        exists_url plain (Names.isName named) fun c mem => (fresh.plain p.issued c mem).1
      rw [given]
      exact starts.isSome valued read
  · exact ((addressed named first).mpr (.inr fine)).target_eq
      ((addressed named' first').mpr (.inr fine')) kinds there there' same

end Rest

end Compute

end ReplicaPorts

namespace ReplicaPorts.Small

open Compute Compute.Rest
open Http (Peer Request Url)

/-- The deletion of a firewall that is named with a prefix. -/
def removal (namePrefix : String) : Call := .delete .firewall (Names.of namePrefix).firewall

/-- A peer that is never reached. -/
def nobody : Peer Unit where
  state := ()

/-- The first request of the deletion. -/
def removalRequest? (namePrefix : String) : Option Request :=
  firstRequest? client (removal namePrefix) (.fixed "t") (Peer.answer Peer.unreachable idAt) nobody

/-- A payload whose prefix holds a number sign. -/
def astrayText : String := "\x7b\"prefix\":\"db-psc-portmapper-firewall#\"," ++
  "\"nat_subnet_fqns\":[\"projects/p/regions/r/subnetworks/s\"]\x7d"

/-- With an accepted payload the deletion of a firewall is asked for without an identifier, and
where the firewall of another workload is. -/
theorem small_removal_astray :
    ((Payload.parse astrayText).toOption.map fun payload => payload.namePrefix) =
      some "db-psc-portmapper-firewall#" ∧
    ∃ r r', removalRequest? "db-psc-portmapper-firewall#" = some r ∧
      removalRequest? "db-" = some r' ∧
      (Names.of "db-psc-portmapper-firewall#").firewall ≠ (Names.of "db-").firewall ∧
      r.url.path = r'.url.path ∧ r.url.query = none ∧
      ¬ Addresses client.scope "https://compute.googleapis.com" "/compute/v1"
        (removal "db-psc-portmapper-firewall#") (idAt 0) r.url := by
  have urls : (removalRequest? "db-psc-portmapper-firewall#").map (·.url) =
        some ⟨"https://compute.googleapis.com",
          "/compute/v1/projects/p/global/firewalls/db-psc-portmapper-firewall", none⟩ ∧
      (removalRequest? "db-").map (·.url) = some ⟨"https://compute.googleapis.com",
        "/compute/v1/projects/p/global/firewalls/db-psc-portmapper-firewall",
        some "requestId=a"⟩ := by decide +kernel
  obtain ⟨r, first, url⟩ := Option.map_eq_some_iff.mp urls.1
  obtain ⟨r', first', url'⟩ := Option.map_eq_some_iff.mp urls.2
  refine ⟨by decide +kernel, r, r', first, first', by decide +kernel, by rw [url, url'], by rw [url],
    fun addresses => ?_⟩
  have query := addresses.query
  rw [url] at query
  cases query

/-- The deletion of a firewall whose name has to be escaped goes to that firewall, with an
identifier, and to no other. -/
theorem small_names_addressed : ∃ r, removalRequest? "größe 1-" = some r ∧
    Addresses client.scope "https://compute.googleapis.com" "/compute/v1" (removal "größe 1-")
      "a" r.url ∧
    ∀ r', removalRequest? "db-" = some r' → r.url.path ≠ r'.url.path := by
  have fine : Url.IsAddressable "größe 1-".toList := .of_all (by decide) (by decide)
  have fine' : Url.IsAddressable "db-".toList := .of_all (by decide) (by decide)
  have named (namePrefix : String) :
      (removal namePrefix).target ∈ (Names.of namePrefix).all := by
    simp [removal, Call.target, Names.all]
  obtain ⟨places, sent, apart⟩ := names_addressed isPlainScope_client fresh_idAt
    (named "größe 1-") (.fixed "t") Peer.unreachable nobody
  obtain ⟨r, first⟩ := Option.isSome_iff_exists.mp (sent "t" rfl (by decide) (by decide))
  refine ⟨r, first, (places r first).mpr (.inr fine), fun r' first' same => ?_⟩
  have names := apart (removal "db-") "db-" (.fixed "t") Unit Peer.unreachable nobody
    (named "db-") rfl rfl rfl fine fine' r r' first first' same
  exact absurd names (by decide +kernel)

end ReplicaPorts.Small
