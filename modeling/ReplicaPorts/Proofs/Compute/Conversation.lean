import Mathlib.Data.List.Chain
import Mathlib.Data.Option.Basic
import ReplicaPorts.Compute.Rest
import ReplicaPorts.Proofs.Compute.Token

/-!
# Conversations with the Compute API

A call that changes something is a conversation: one exchange asks for the change, and each later
one waits for the operation in the answer before it (`Continues`). How the conversation ends is
decided by its last answer and by how many waits are left (`Ends`).

`path_mutate` says that every path of such a call is a conversation, whoever answers and wherever
the tokens come from. What is asked for a token stands before the request that carries it
(`Exchange.fetch`); a fixed token needs no question (`Fetch`). Why nothing is read from an answer is
told once for all requests (`Refuses`).
-/

set_option autoImplicit false

namespace ReplicaPorts.Compute

open Http (Wire Method Request Response)

/-! ## Tokens -/

namespace TokenSupply

/-- The token of a supply that has only one. -/
def fixed? : TokenSupply → Option String
  | fixed token => some token
  | metadata _ => none

/-- Whether a question is asked for a token. -/
def IsFetching (e : Event Wire.asks) : Prop := e.op = .send tokenRequest ∨ e.op = .now

/-- What is asked for a token and what comes of it, by the fixed token if there is one. -/
inductive Fetch : Option String → List (Event Wire.asks) → Except Error String → Prop
  | fixed (token : String) : Fetch (some token) [] (.ok token)
  | fetched {t : List (Event Wire.asks)} (only : ∀ e ∈ t, IsFetching e) (token : String) :
      Fetch none t (.ok token)
  | failed {t : List (Event Wire.asks)} (only : ∀ e ∈ t, IsFetching e) {e : Error}
      (about : e = .transport ∨ ∃ message, e = .authentication message) : Fetch none t (.error e)

variable {supply supply' : TokenSupply} {t : List (Event Wire.asks)} {r : Except Error String}

/-- How a token comes about. A fixed token stays fixed. -/
theorem path_token (h : Program.Path supply.token t (r, supply')) :
    supply'.fixed? = supply.fixed? ∧ Fetch supply.fixed? t r := by
  cases supply with
  | fixed token =>
    obtain ⟨rfl, same⟩ := Program.path_done_iff.mp h
    cases same
    exact ⟨rfl, .fixed token⟩
  | metadata kept =>
    obtain ⟨kept', rfl, serves⟩ := path_metadata_iff.mp h
    refine ⟨rfl, ?_⟩
    have sends {answer} : IsFetching ⟨.send tokenRequest, answer⟩ := .inl rfl
    have looks {now} : IsFetching ⟨.now, now⟩ := .inr rfl
    cases serves with
    | counts => exact .fetched (List.forall_mem_singleton.mpr looks) _
    | @renews checks _ _ _ lapsed renews =>
      have first : ∀ e ∈ checks, IsFetching e := by
        cases lapsed with
        | nothing => exact fun _ mem => (List.not_mem_nil mem).elim
        | ended => exact List.forall_mem_singleton.mpr looks
      cases renews with
      | failed read =>
        exact .failed (List.forall_mem_append.mpr ⟨first, List.forall_mem_singleton.mpr sends⟩)
          (readToken_error read)
      | got =>
        exact .fetched (List.forall_mem_append.mpr ⟨first,
          List.forall_mem_cons.mpr ⟨sends, List.forall_mem_singleton.mpr looks⟩⟩) _

end TokenSupply

open TokenSupply (Fetch)

namespace Rest

variable {α β : Type}

/-! ## Requests -/

/-- What a request to a path is, if it can be formed. -/
theorem requestTo?_eq_some_iff {base path token : String} {method : Method} {body : Option Json}
    {request : Request} :
    requestTo? base path token method body = some request ↔
      Http.isHeaderValue token = true ∧ ∃ url, Http.Url.ofText? (urlOf base path) = some url ∧
        { method, url, body
          headers := [("authorization", s!"Bearer {token}"), ("accept", "application/json")] } =
          request := by
  simp only [requestTo?, Option.bind_eq_bind, Option.bind_eq_some_iff, Option.guard_eq_some',
    exists_and_left, exists_const, Option.pure_def, Option.some.injEq]

/-- A request to the Compute API, with what was asked for its token and what came back. -/
structure Exchange where
  fetch : List (Event Wire.asks)
  path : String
  request : Request
  answer : Option Response

namespace Exchange

/-- The request with its answer. -/
def event (x : Exchange) : Event Wire.asks := ⟨.send x.request, x.answer⟩

/-- What is asked in an exchange, with the answers. -/
def events (x : Exchange) : List (Event Wire.asks) := x.fetch ++ [x.event]

/-- An exchange sends this request, with a token. -/
def Asks (base : String) (key : Option String) (method : Method) (path : String)
    (body : Option Json) (x : Exchange) : Prop :=
  x.path = path ∧ ∃ token, Fetch key x.fetch (.ok token) ∧
    requestTo? base path token method body = some x.request

end Exchange

/-- This request is not sent: there is no token for it, or it cannot be formed with the token. -/
def Unsent (base : String) (key : Option String) (method : Method) (path : String)
    (body : Option Json) (t : List (Event Wire.asks)) (e : Error) : Prop :=
  Fetch key t (.error e) ∨
    ∃ token, Fetch key t (.ok token) ∧ requestTo? base path token method body = none ∧
      e = .transport

/-- What one request comes to. -/
inductive Sending (base : String) (key : Option String) (method : Method) (path : String)
    (body : Option Json) (read? : Json → Option α) :
    List (Event Wire.asks) → Except Error α → Prop
  | unsent {t : List (Event Wire.asks)} {e : Error} (h : Unsent base key method path body t e) :
      Sending base key method path body read? t (.error e)
  | sent (x : Exchange) (asks : x.Asks base key method path body) :
      Sending base key method path body read? x.events (readAnswer path read? x.answer)

variable {c : Client} {method : Method} {path : String} {body : Option Json}
  {read? : Json → Option α} {supply supply' : TokenSupply} {t : List (Event Wire.asks)}

/-- Goes on with what was made and the tokens that are left, if nothing failed. -/
def onward (f : α → Rest β) :
    Except Error α × TokenSupply → Program Wire.asks (Except Error β × TokenSupply)
  | (.ok a, supply) => (f a).run.run supply
  | (.error e, supply) => .done (.error e, supply)

/-- Two pieces of work in a row, each with the tokens that the one before it left. -/
theorem run_bind (x : Rest α) (f : α → Rest β) (supply : TokenSupply) :
    (x >>= f).run.run supply = (x.run.run supply).bind (onward f) := by
  refine congrArg (Program.bind (x.run.run supply)) (funext fun ran => ?_)
  obtain ⟨result, supply'⟩ := ran
  cases result <;> rfl

/-- One question leaves the tokens alone. -/
theorem run_ask (p : Program Wire.asks α) (supply : TokenSupply) :
    (ask p).run.run supply = p.bind fun a => .done (.ok a, supply) := by
  exact (Program.bind_assoc p (fun a => .done (a, supply)) _).trans rfl

/-- What one request comes to on every path. -/
theorem path_send {r : Except Error α}
    (h : Program.Path ((send c method path body read?).run.run supply) t (r, supply')) :
    supply'.fixed? = supply.fixed? ∧
      Sending (baseOf c.scope.endpoint) supply.fixed? method path body read? t r := by
  unfold send at h
  rw [run_bind] at h
  obtain ⟨fetch, ⟨given, supply₁⟩, t₂, rfl, fetched, rest⟩ := Program.path_bind_iff.mp h
  obtain ⟨fixed, fetch_⟩ := TokenSupply.path_token fetched
  cases given with
  | error e =>
    obtain ⟨rfl, same⟩ := Program.path_done_iff.mp rest
    cases same
    rw [List.append_nil]
    exact ⟨fixed, .unsent (.inl fetch_)⟩
  | ok token =>
    cases formed : requestTo? (baseOf c.scope.endpoint) path token method body with
    | none =>
      simp only [onward, formed] at rest
      obtain ⟨rfl, same⟩ := Program.path_done_iff.mp rest
      cases same
      rw [List.append_nil]
      exact ⟨fixed, .unsent (.inr ⟨token, fetch_, formed, rfl⟩)⟩
    | some request =>
      simp only [onward, formed] at rest
      rw [run_bind] at rest
      rw [run_ask] at rest
      obtain ⟨t₁, ⟨got, supply₂⟩, t₃, rfl, asked, last⟩ := Program.path_bind_iff.mp rest
      obtain ⟨t₄, answer, t₅, rfl, exchanged, kept⟩ := Program.path_bind_iff.mp asked
      obtain rfl := Program.path_call_iff.mp exchanged
      obtain ⟨rfl, same⟩ := Program.path_done_iff.mp kept
      cases same
      have ended : t₃ = [] ∧ r = readAnswer path read? answer ∧ supply' = supply₁ := by
        cases read : readAnswer path read? answer <;> simp only [onward, read] at last <;>
          obtain ⟨rfl, same⟩ := Program.path_done_iff.mp last <;> cases same <;>
          exact ⟨rfl, rfl, rfl⟩
      obtain ⟨rfl, rfl, rfl⟩ := ended
      exact ⟨fixed, .sent ⟨fetch, path, request, answer⟩ ⟨rfl, token, fetch_, formed⟩⟩

/-! ## Answers -/

/-- The words for an answer that is no success. -/
def told (path : String) (r : Response) : String :=
  s!"{path}: {(reportedMessage? r.body).getD r.body}"

/-- Why nothing is read from an answer to a request for a path. -/
inductive Refuses (path : String) (read? : Json → Option α) : Option Response → Error → Prop
  | lost : Refuses path read? none .transport
  | missing {r : Response} (status : r.status = 404) :
      Refuses path read? (some r) (.notFound (told path r))
  | present {r : Response} (status : r.status = 409) :
      Refuses path read? (some r) (.alreadyExists (told path r))
  | forbidden {r : Response} (status : r.status = 401 ∨ r.status = 403) :
      Refuses path read? (some r) (.authentication (told path r))
  | failed {r : Response} (fails : r.isSuccess = false) (other : r.status ∉ [404, 409, 401, 403]) :
      Refuses path read? (some r) (.api r.status (told path r))
  | unread {r : Response} (succeeds : r.isSuccess = true)
      (unread : Json.ofText? r.body >>= read? = none) : Refuses path read? (some r) .malformed

theorem refuses_of_readAnswer {answer : Option Response} {e : Error}
    (h : readAnswer path read? answer = .error e) : Refuses path read? answer e := by
  unfold readAnswer at h
  split at h
  · cases h
    exact .lost
  · next r =>
    split at h
    · next succeeds =>
      split at h
      · cases h
      · next unread =>
        cases h
        exact .unread succeeds unread
    · next fails =>
      cases h
      unfold Error.ofStatus
      split
      · next status => exact .missing status
      · split
        · next status => exact .present status
        · split
          · next status => exact .forbidden status
          · next first second third =>
            refine .failed (by simpa using fails) ?_
            simp_all

/-- What is read from an answer is read from the body of a success. -/
theorem readAnswer_eq_ok_iff {answer : Option Response} {a : α} :
    readAnswer path read? answer = .ok a ↔
      ∃ r, answer = some r ∧ r.isSuccess = true ∧ Json.ofText? r.body >>= read? = some a := by
  constructor
  · intro h
    unfold readAnswer at h
    split at h
    · cases h
    · next r =>
      split at h
      · next succeeds =>
        split at h
        · next read =>
          cases h
          exact ⟨r, rfl, succeeds, read⟩
        · cases h
      · cases h
  · rintro ⟨r, rfl, succeeds, read⟩
    simp only [readAnswer, succeeds, if_true, read]

/-! ## Waiting -/

/-- The operation in an answer of success. -/
def operationIn? (answer : Option Response) : Option Operation := do
  let r ← answer
  guard r.isSuccess
  Operation.ofJson? (← Json.ofText? r.body)

/-- An exchange waits for the operation in the answer of the one before it. -/
def Continues (base : String) (key : Option String) (x y : Exchange) : Prop :=
  ∃ o link, operationIn? x.answer = some o ∧ o.isDone = false ∧ o.selfLink = some link ∧
    y.Asks base key .post s!"{link}/wait" (some Body.empty)

/-- How a conversation ends with its last exchange, when so many waits are left: what was asked for
a token since then, and the result. -/
inductive Ends (base : String) (key : Option String) (left : Nat) (x : Exchange) :
    List (Event Wire.asks) → Except Error Unit → Prop
  | lost (h : x.answer = none) : Ends base key left x [] (.error .transport)
  | missing {r : Response} (h : x.answer = some r) (status : r.status = 404) :
      Ends base key left x [] (.error (.notFound (told x.path r)))
  | present {r : Response} (h : x.answer = some r) (status : r.status = 409) :
      Ends base key left x [] (.error (.alreadyExists (told x.path r)))
  | forbidden {r : Response} (h : x.answer = some r) (status : r.status = 401 ∨ r.status = 403) :
      Ends base key left x [] (.error (.authentication (told x.path r)))
  | refused {r : Response} (h : x.answer = some r) (fails : r.isSuccess = false)
      (other : r.status ∉ [404, 409, 401, 403]) :
      Ends base key left x [] (.error (.api r.status (told x.path r)))
  | unread {r : Response} (h : x.answer = some r) (succeeds : r.isSuccess = true)
      (unread : operationIn? x.answer = none) : Ends base key left x [] (.error .malformed)
  | finished {o : Operation} (held : operationIn? x.answer = some o) (done : o.isDone = true)
      (fine : o.errors = none) : Ends base key left x [] (.ok ())
  | faulty {o : Operation} (held : operationIn? x.answer = some o) (done : o.isDone = true)
      {e : Error} (fault : o.result = .error e) : Ends base key left x [] (.error e)
  | spent {o : Operation} (held : operationIn? x.answer = some o) (pending : o.isDone = false)
      (none_ : left = 0) :
      Ends base key left x [] (.error (.operation o.name "gave up waiting for completion"))
  | unlinked {o : Operation} (held : operationIn? x.answer = some o) (pending : o.isDone = false)
      (some_ : left ≠ 0) (unlinked : o.selfLink = none) :
      Ends base key left x [] (.error (.operation o.name "operation has no selfLink"))
  | unsent {o : Operation} (held : operationIn? x.answer = some o) (pending : o.isDone = false)
      (some_ : left ≠ 0) {link : String} (linked : o.selfLink = some link)
      {t : List (Event Wire.asks)} {e : Error}
      (unsent : Unsent base key .post s!"{link}/wait" (some Body.empty) t e) :
      Ends base key left x t (.error e)

variable {base : String} {key : Option String} {left : Nat} {x : Exchange}

/-- What is read from an answer is the operation in it. -/
theorem operationIn?_of_readAnswer {answer : Option Response} {o : Operation}
    (h : readAnswer path Operation.ofJson? answer = .ok o) : operationIn? answer = some o := by
  obtain ⟨r, rfl, succeeds, read⟩ := readAnswer_eq_ok_iff.mp h
  simpa [operationIn?, guard, succeeds] using read

/-- An answer in which no operation is read ends a conversation. -/
theorem ends_of_readAnswer {e : Error}
    (h : readAnswer x.path Operation.ofJson? x.answer = .error e) :
    Ends base key left x [] (.error e) := by
  have refuses := refuses_of_readAnswer h
  generalize answered : x.answer = answer at refuses
  cases refuses with
  | lost => exact .lost answered
  | missing status => exact .missing answered status
  | present status => exact .present answered status
  | forbidden status => exact .forbidden answered status
  | failed fails other => exact .refused answered fails other
  | unread succeeds unread =>
    refine .unread answered succeeds ?_
    simpa [operationIn?, guard, answered, succeeds] using unread

/-- An operation that is done ends a conversation. -/
theorem ends_of_isDone {o : Operation} (held : operationIn? x.answer = some o)
    (done : o.isDone = true) : Ends base key left x [] o.result := by
  cases result : o.result with
  | error e => exact .faulty held done result
  | ok =>
    refine .finished held done ?_
    cases errors : o.errors with
    | none => rfl
    | some faults =>
      simp only [Operation.result, errors] at result
      split at result
      · cases result
      · split at result <;> cases result

/-- The rest of a conversation from an exchange on: more exchanges, as many as may follow, and its
end. -/
def Follows (base : String) (key : Option String) (left : Nat) (x : Exchange)
    (t : List (Event Wire.asks)) (r : Except Error Unit) : Prop :=
  ∃ xs last tail, t = xs.flatMap Exchange.events ++ tail ∧ xs.length ≤ left ∧
    (x :: xs).IsChain (Continues base key) ∧ (x :: xs).getLast? = some last ∧
    Ends base key (left - xs.length) last tail r

variable {r : Except Error Unit}

theorem follows_of_ends (ends : Ends base key left x t r) : Follows base key left x t r :=
  ⟨[], x, t, rfl, Nat.zero_le _, .singleton x, rfl, ends⟩

theorem follows_of_continues {y : Exchange} (h : Continues base key x y)
    (rest : Follows base key left y t r) : Follows base key (left + 1) x (y.events ++ t) r := by
  obtain ⟨xs, last, tail, rfl, short, chain, isLast, ends⟩ := rest
  refine ⟨y :: xs, last, tail, ?_, Nat.succ_le_succ short, chain.cons_cons h, ?_, ?_⟩
  · rw [List.flatMap_cons, List.append_assoc]
  · rw [List.getLast?_cons_cons]
    exact isLast
  · rwa [List.length_cons, Nat.add_sub_add_right]

theorem awaitDone_of_isDone {o : Operation} (done : o.isDone = true) :
    (awaitDone c left o).run.run supply = .done (o.result, supply) := by
  unfold awaitDone
  rw [if_pos done]
  split
  · next result => rw [result]; rfl
  · next result => rw [result]; rfl

theorem awaitDone_zero {o : Operation} (pending : o.isDone = false) :
    (awaitDone c 0 o).run.run supply =
      .done (.error (.operation o.name "gave up waiting for completion"), supply) := by
  unfold awaitDone
  rw [if_neg (by simp [pending])]
  rfl

theorem awaitDone_unlinked {o : Operation} (pending : o.isDone = false)
    (unlinked : o.selfLink = none) :
    (awaitDone c (left + 1) o).run.run supply =
      .done (.error (.operation o.name "operation has no selfLink"), supply) := by
  unfold awaitDone
  simp only [pending, Bool.false_eq_true, if_false, unlinked]
  rfl

theorem awaitDone_linked {o : Operation} (pending : o.isDone = false) {link : String}
    (linked : o.selfLink = some link) :
    (awaitDone c (left + 1) o).run.run supply =
      ((send c .post s!"{link}/wait" (some Body.empty) Operation.ofJson?).run.run supply).bind
        (onward (awaitDone c left)) := by
  conv => lhs; unfold awaitDone
  simp only [pending, Bool.false_eq_true, if_false, linked]
  exact run_bind _ _ supply

/-- From an answer on a path ends with it or goes on with the operation in it, which is pending. -/
theorem ends_or_pending
    (h : Program.Path
      (onward (awaitDone c left) (readAnswer x.path Operation.ofJson? x.answer, supply)) t
      (r, supply')) :
    Ends base key left x t r ∨ ∃ o, operationIn? x.answer = some o ∧ o.isDone = false ∧
      Program.Path ((awaitDone c left o).run.run supply) t (r, supply') := by
  cases read : readAnswer x.path Operation.ofJson? x.answer with
  | error e =>
    rw [read] at h
    obtain ⟨rfl, same⟩ := Program.path_done_iff.mp h
    cases same
    exact .inl (ends_of_readAnswer read)
  | ok o =>
    have held := operationIn?_of_readAnswer read
    rw [read] at h
    cases pending : o.isDone with
    | true =>
      simp only [onward, awaitDone_of_isDone pending] at h
      obtain ⟨rfl, same⟩ := Program.path_done_iff.mp h
      cases same
      exact .inl (ends_of_isDone held pending)
    | false => exact .inr ⟨o, held, pending, h⟩

/-- Every path from an answer on is the rest of a conversation: it waits for one operation after the
other, as often as it may. -/
theorem path_answered
    (h : Program.Path
      (onward (awaitDone c left) (readAnswer x.path Operation.ofJson? x.answer, supply)) t
      (r, supply')) :
    Follows (baseOf c.scope.endpoint) supply.fixed? left x t r := by
  induction left generalizing x supply t with
  | zero =>
    obtain ends | ⟨o, held, pending, h⟩ := ends_or_pending h
    · exact follows_of_ends ends
    · rw [awaitDone_zero pending] at h
      obtain ⟨rfl, same⟩ := Program.path_done_iff.mp h
      cases same
      exact follows_of_ends (.spent held pending rfl)
  | succ left ih =>
    obtain ends | ⟨o, held, pending, h⟩ := ends_or_pending h
    · exact follows_of_ends ends
    · cases linked : o.selfLink with
      | none =>
        rw [awaitDone_unlinked pending linked] at h
        obtain ⟨rfl, same⟩ := Program.path_done_iff.mp h
        cases same
        exact follows_of_ends (.unlinked held pending (Nat.succ_ne_zero left) linked)
      | some link =>
        rw [awaitDone_linked pending linked] at h
        obtain ⟨t₁, ⟨got, supply₁⟩, t₂, rfl, sent, rest⟩ := Program.path_bind_iff.mp h
        obtain ⟨fixed, sending⟩ := path_send sent
        cases sending with
        | unsent unsent =>
          obtain ⟨rfl, same⟩ := Program.path_done_iff.mp rest
          cases same
          rw [List.append_nil]
          exact follows_of_ends (.unsent held pending (Nat.succ_ne_zero left) linked unsent)
        | sent y asks =>
          -- the wait is the next exchange, and what follows it follows by induction
          rw [← asks.1] at rest
          have later := ih rest
          rw [fixed] at later
          exact follows_of_continues ⟨o, link, held, pending, linked, asks⟩ later

/-! ## Calls that change something -/

/-- How a call speaks with its peer: its request is not sent, or it is the first of a conversation
of at most `maxWaits` waits. -/
inductive Conversation (base : String) (key : Option String) (method : Method) (path : String)
    (body : Option Json) :
    List Exchange → List (Event Wire.asks) → Except Error Unit → Prop
  | unsent {tail : List (Event Wire.asks)} {e : Error}
      (h : Unsent base key method path body tail e) :
      Conversation base key method path body [] tail (.error e)
  | held {x last : Exchange} {xs : List Exchange} {tail : List (Event Wire.asks)}
      {r : Except Error Unit} (opens : x.Asks base key method path body)
      (short : xs.length ≤ maxWaits) (chain : (x :: xs).IsChain (Continues base key))
      (isLast : (x :: xs).getLast? = some last)
      (ends : Ends base key (maxWaits - xs.length) last tail r) :
      Conversation base key method path body (x :: xs) tail r

/-- In a chain of waits every exchange but the first is a wait. -/
theorem asks_of_chain {xs : List Exchange} (chain : (x :: xs).IsChain (Continues base key)) :
    ∀ y ∈ xs, ∃ path, y.Asks base key .post path (some Body.empty) := by
  induction xs generalizing x with
  | nil => exact fun _ mem => (List.not_mem_nil mem).elim
  | cons y ys ih =>
    obtain ⟨⟨o, link, -, -, -, asks⟩, later⟩ := List.isChain_cons_cons.mp chain
    exact List.forall_mem_cons.mpr ⟨⟨_, asks⟩, ih later⟩

section Parts

variable {xs : List Exchange} {tail : List (Event Wire.asks)}
  (h : Conversation base key method path body xs tail r)

include h

/-- Every exchange of a conversation but the first is a wait. -/
theorem Conversation.waits :
    ∀ y ∈ xs.tail, ∃ path, y.Asks base key .post path (some Body.empty) := by
  cases h with
  | unsent => exact fun _ mem => (List.not_mem_nil mem).elim
  | held _ _ chain => exact asks_of_chain chain

/-- Every exchange of a conversation sends a request with a token. -/
theorem Conversation.asks : ∀ x ∈ xs, ∃ method path body, x.Asks base key method path body := by
  cases h with
  | unsent => exact fun _ mem => (List.not_mem_nil mem).elim
  | held opens _ chain =>
    refine List.forall_mem_cons.mpr ⟨⟨_, _, _, opens⟩, fun y mem => ?_⟩
    obtain ⟨path, asks⟩ := asks_of_chain chain y mem
    exact ⟨_, path, _, asks⟩

/-- What is asked after the last exchange is asked for a request that is not sent. -/
theorem Conversation.unsent_after : tail = [] ∨
    ∃ method path body e, Unsent base key method path body tail e := by
  cases h with
  | unsent unsent => exact .inr ⟨_, _, _, _, unsent⟩
  | held _ _ _ _ ends =>
    cases ends with
    | unsent _ _ _ _ unsent => exact .inr ⟨_, _, _, _, unsent⟩
    | _ => exact .inl rfl

end Parts

/-- A call that changes something takes an identifier and holds a conversation. -/
theorem path_mutate (h : Program.Path ((mutate c method path body).run.run supply) t (r, supply')) :
    ∃ id xs tail, t = ⟨.freshId, id⟩ :: (xs.flatMap Exchange.events ++ tail) ∧
      Conversation (baseOf c.scope.endpoint) supply.fixed? method (withId path id) body xs tail
        r := by
  unfold mutate at h
  rw [run_bind, run_ask] at h
  obtain ⟨t₁, ⟨named, supply₁⟩, t₂, rfl, asked, rest⟩ := Program.path_bind_iff.mp h
  obtain ⟨t₃, id, t₄, rfl, called, kept⟩ := Program.path_bind_iff.mp asked
  obtain rfl := Program.path_call_iff.mp called
  obtain ⟨rfl, same⟩ := Program.path_done_iff.mp kept
  cases same
  simp only [onward] at rest
  rw [run_bind] at rest
  obtain ⟨t₁, ⟨got, supply₂⟩, t₃, rfl, sent, last⟩ := Program.path_bind_iff.mp rest
  obtain ⟨fixed, sending⟩ := path_send sent
  cases sending with
  | unsent unsent =>
    obtain ⟨rfl, same⟩ := Program.path_done_iff.mp last
    cases same
    exact ⟨id, [], t₁, by simp, .unsent unsent⟩
  | sent x asks =>
    rw [← asks.1] at last
    obtain ⟨xs, last, tail, rfl, short, chain, isLast, ends⟩ := path_answered last
    rw [fixed] at chain ends
    exact ⟨id, x :: xs, tail, by simp, .held asks short chain isLast ends⟩

/-- The first request of a call. -/
structure Opening where
  method : Method
  path : String
  body : Option Json

/-- How a call is asked for, but for the identifier of the request. -/
def opening (s : Scope) : Call → Opening
  | .get kind name => ⟨.get, Path.resource s.place kind name, none⟩
  | .create name design =>
    ⟨.post, Path.collection s.place design.kind, some (Body.creation s name design)⟩
  | .updateFirewall name ports =>
    ⟨.patch, Path.resource s.place .firewall name, some (Body.portsUpdate ports)⟩
  | .delete kind name => ⟨.delete, Path.resource s.place kind name, none⟩
  | .listEndpoints group => ⟨.post, verbPath s group "listNetworkEndpoints", some Body.empty⟩
  | .attachEndpoints group mappings =>
    ⟨.post, verbPath s group "attachNetworkEndpoints", some (Body.endpoints mappings)⟩
  | .detachEndpoints group mappings =>
    ⟨.post, verbPath s group "detachNetworkEndpoints", some (Body.endpoints mappings)⟩

/-- Every call that changes something is a conversation. -/
theorem path_perform {call : Call} (writes : call.isWrite = true)
    {r : Except Error call.Value}
    (h : Program.Path ((perform c call).run.run supply) t (r, supply')) :
    ∃ id xs tail, t = ⟨.freshId, id⟩ :: (xs.flatMap Exchange.events ++ tail) ∧
      Conversation (baseOf c.scope.endpoint) supply.fixed? (opening c.scope call).method
        (withId (opening c.scope call).path id) (opening c.scope call).body xs tail
        (r.map fun _ => ()) := by
  have same : ∀ r : Except Error Unit, r.map (fun _ => ()) = r := by
    rintro (e | ⟨⟩) <;> rfl
  cases call with
  | get => cases writes
  | listEndpoints => cases writes
  | create | updateFirewall | delete | attachEndpoints | detachEndpoints =>
    rw [same]
    exact path_mutate h

end Rest

end ReplicaPorts.Compute

/-! ## A small client -/

namespace ReplicaPorts.Small

open Compute
open Http (Response)

/-- A client of a small project at the public API. -/
def client : Client where
  scope := Scope.of "p" "r" "n" "s"

/-- An operation that is under way. -/
def pendingAnswer : Response :=
  ⟨200, "\x7b\"name\":\"op\",\"selfLink\":\"projects/p/global/operations/op\"\x7d"⟩

/-- The identifiers that a small world gives. -/
def idAt (i : Nat) : String := String.ofList (List.replicate (i + 1) 'a')

end ReplicaPorts.Small
