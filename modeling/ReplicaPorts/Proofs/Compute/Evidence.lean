import ReplicaPorts.Compute.Provision
import ReplicaPorts.Proofs.Compute.Conversation

/-!
# What is concluded about a resource

A call that changes something may end with the conclusion that the resource does not exist, or that
it exists. There is evidence for it if the request for the change was answered so, or if an
operation that is done reports it (`evidence`). An answer to a wait is none: it is about the
operation, which may still be under way.

A wait is read like every other request, so its answer is taken for a conclusion all the same
(`Conversation.isDrawn_of_misleads`). But for that every conclusion has evidence
(`Conversation.evidence_or_misleads`). `conclusions_by_evidence` says for calls, and for what is
made of their errors when a resource is deleted or brought about, that conclusions have evidence
exactly if no wait is answered so.
-/

set_option autoImplicit false

namespace ReplicaPorts.Compute

open Http (Wire Method Request Response Peer exchanges)

/-- What may be concluded about a resource. -/
inductive Conclusion where
  | missing
  | present
  deriving DecidableEq

namespace Conclusion

/-- The status that tells it. -/
def status : Conclusion → UInt16
  | missing => 404
  | present => 409

/-- The code of a fault that tells it. -/
def code : Conclusion → String
  | missing => "RESOURCE_NOT_FOUND"
  | present => "RESOURCE_ALREADY_EXISTS"

/-- Whether an error says it. -/
def isDrawn : Conclusion → Error → Bool
  | missing => Error.isNotFound
  | present => Error.isAlreadyExists

end Conclusion

namespace Rest

variable {α σ : Type} {conclusion : Conclusion}

/-! ## Evidence -/

/-- Whether an answer has the status of a conclusion. -/
def tells (conclusion : Conclusion) (answer : Option Response) : Bool :=
  answer.any fun r => r.status == conclusion.status.toNat

/-- Whether an answer holds an operation that is done and failed with the status or the code of a
conclusion. -/
def reports (conclusion : Conclusion) (answer : Option Response) : Bool :=
  (operationIn? answer).any fun o => o.isDone && o.errors.any fun faults =>
    o.failureStatus == some conclusion.status ||
      faults.head?.bind (·.code) == some conclusion.code

/-- Whether the answers to a call, the first one to the request for the change and the others to
waits, hold evidence of a conclusion. -/
def evidence (conclusion : Conclusion) (answers : List (Option Response)) : Bool :=
  answers.head?.any (tells conclusion) || answers.any (reports conclusion)

/-- Whether a wait among them is answered with the status of a conclusion. -/
def misleads (conclusion : Conclusion) (answers : List (Option Response)) : Bool :=
  answers.tail.any (tells conclusion)

/-! ## Conversations -/

/-- An operation that reports a failure reports what is concluded from it. -/
theorem reports_of_result {answer : Option Response} {o : Operation} {e : Error}
    (held : operationIn? answer = some o) (done : o.isDone = true) (fault : o.result = .error e)
    (drawn : conclusion.isDrawn e = true) : reports conclusion answer = true := by
  cases errors : o.errors with
  | none =>
    simp only [Operation.result, errors] at fault
    cases fault
  | some faults =>
    simp only [Operation.result, errors] at fault
    simp only [reports, held, done, errors, Option.any_some, Bool.true_and, Bool.or_eq_true,
      beq_iff_eq]
    split at fault
    · next found =>
      cases fault
      cases conclusion with
      | missing => exact found
      | present => cases drawn
    · split at fault
      · next found =>
        cases fault
        cases conclusion with
        | missing => cases drawn
        | present => exact found
      · cases fault
        cases conclusion <;> cases drawn

theorem not_isDrawn_of_unsent {base path : String} {key : Option String} {method : Method}
    {body : Option Json} {t : List (Event Wire.asks)} {e : Error}
    (h : Unsent base key method path body t e) : conclusion.isDrawn e = false := by
  have about : e = .transport ∨ ∃ message, e = .authentication message := by
    obtain fetch | ⟨_, _, _, rfl⟩ := h
    · cases fetch with
      | failed _ about => exact about
    · exact .inl rfl
  obtain rfl | ⟨message, rfl⟩ := about <;> cases conclusion <;> rfl

variable {base path : String} {key : Option String} {method : Method} {body : Option Json}
  {x y last : Exchange} {xs : List Exchange} {t tail : List (Event Wire.asks)}
  {r : Except Error Unit}

/-- How a conversation ends that ends with a conclusion: the last answer tells it or reports it. -/
theorem Ends.tells_or_reports {left : Nat} {e : Error} (h : Ends base key left last tail (.error e))
    (drawn : conclusion.isDrawn e = true) :
    tells conclusion last.answer = true ∨ reports conclusion last.answer = true := by
  cases h with
  | missing h status =>
    cases conclusion with
    | missing => exact .inl (by simp [tells, h, status, Conclusion.status])
    | present => cases drawn
  | present h status =>
    cases conclusion with
    | missing => cases drawn
    | present => exact .inl (by simp [tells, h, status, Conclusion.status])
  | faulty held done fault => exact .inr (reports_of_result held done fault drawn)
  | unsent _ _ _ _ unsent =>
    rw [not_isDrawn_of_unsent unsent] at drawn
    cases drawn
  | lost | forbidden | refused | unread | spent | unlinked => cases conclusion <;> cases drawn

theorem tells_some {r : Response} :
    tells conclusion (some r) = true ↔ r.status = conclusion.status.toNat := by
  simp [tells]

/-- An answer that tells a conclusion is no success and holds no operation. -/
theorem operationIn?_of_tells {answer : Option Response} (told : tells conclusion answer = true) :
    operationIn? answer = none ∧ ∀ r, answer = some r → r.isSuccess = false := by
  cases answer with
  | none => cases told
  | some r =>
    have fails : r.isSuccess = false := by
      rw [Response.isSuccess, tells_some.mp told]
      cases conclusion <;> rfl
    refine ⟨by simp [operationIn?, guard, fails, failure], ?_⟩
    rintro r ⟨⟩
    exact fails

/-- A last answer that tells a conclusion is taken for it. -/
theorem Ends.isDrawn_of_tells {left : Nat} (h : Ends base key left last tail r)
    (told : tells conclusion last.answer = true) :
    ∃ e, r = .error e ∧ conclusion.isDrawn e = true := by
  obtain ⟨unheld, fails⟩ := operationIn?_of_tells told
  cases h with
  | lost lost =>
    rw [lost] at told
    cases told
  | missing answered status =>
    rw [answered, tells_some, status] at told
    cases conclusion with
    | missing => exact ⟨_, rfl, rfl⟩
    | present => cases told
  | present answered status =>
    rw [answered, tells_some, status] at told
    cases conclusion with
    | missing => cases told
    | present => exact ⟨_, rfl, rfl⟩
  | forbidden answered status =>
    rw [answered, tells_some] at told
    rw [told] at status
    cases conclusion <;> exact absurd status (by decide)
  | refused answered _ other =>
    rw [answered, tells_some] at told
    rw [told] at other
    cases conclusion <;> exact absurd (by decide) other
  | unread answered succeeds =>
    rw [fails _ answered] at succeeds
    cases succeeds
  | finished held | faulty held | spent held | unlinked held | unsent held =>
    rw [unheld] at held
    cases held

/-- All answers in a chain of waits but the last one hold operations that are pending. -/
theorem pending_or_last (chain : (x :: xs).IsChain (Continues base key))
    (isLast : (x :: xs).getLast? = some last) :
    (xs ≠ [] → ∃ o, operationIn? x.answer = some o ∧ o.isDone = false) ∧
      ∀ y ∈ x :: xs, y = last ∨ ∃ o, operationIn? y.answer = some o ∧ o.isDone = false := by
  induction xs generalizing x with
  | nil =>
    obtain rfl := Option.some.inj isLast
    exact ⟨fun some_ => absurd rfl some_, by simp⟩
  | cons y ys ih =>
    obtain ⟨⟨o, link, held, pending, -, -⟩, later⟩ := List.isChain_cons_cons.mp chain
    rw [List.getLast?_cons_cons] at isLast
    have first : ∃ o, operationIn? x.answer = some o ∧ o.isDone = false := ⟨o, held, pending⟩
    exact ⟨fun _ => first, List.forall_mem_cons.mpr ⟨.inr first, (ih later isLast).2⟩⟩

/-- What a conversation concludes has evidence, or a wait misleads it. -/
theorem Conversation.evidence_or_misleads {e : Error}
    (h : Conversation base key method path body xs tail (.error e))
    (drawn : conclusion.isDrawn e = true) :
    evidence conclusion (xs.map (·.answer)) = true ∨
      misleads conclusion (xs.map (·.answer)) = true := by
  cases h with
  | unsent unsent =>
    rw [not_isDrawn_of_unsent unsent] at drawn
    cases drawn
  | @held x last xs _ _ opens short chain isLast ends =>
    have mem : last ∈ x :: xs := List.mem_of_getLast? isLast
    obtain told | reported := ends.tells_or_reports drawn
    · obtain rfl | later := List.mem_cons.mp mem
      · exact .inl (by simp [evidence, told])
      · refine .inr ?_
        simp only [misleads, List.map_cons, List.tail_cons, List.any_map]
        exact List.any_eq_true.mpr ⟨last, later, told⟩
    · refine .inl ?_
      simp only [evidence, Bool.or_eq_true, List.any_map]
      exact .inr (List.any_eq_true.mpr ⟨last, mem, reported⟩)

/-- A wait that misleads a conversation is its last exchange, so the conversation concludes what it
tells, and there is no evidence for that. -/
theorem Conversation.isDrawn_of_misleads
    (h : Conversation base key method path body xs tail r)
    (misled : misleads conclusion (xs.map (·.answer)) = true) :
    (∃ e, r = .error e ∧ conclusion.isDrawn e = true) ∧
      evidence conclusion (xs.map (·.answer)) = false := by
  cases h with
  | unsent => cases misled
  | @held x last xs _ _ opens short chain isLast ends =>
    simp only [misleads, List.map_cons, List.tail_cons, List.any_map, List.any_eq_true,
      Function.comp_apply] at misled
    obtain ⟨y, mem, told⟩ := misled
    obtain ⟨first, others⟩ := pending_or_last chain isLast
    obtain ⟨unheld, -⟩ := operationIn?_of_tells told
    obtain rfl : y = last := by
      obtain same | ⟨o, held, -⟩ := others y (List.mem_cons_of_mem x mem)
      · exact same
      · rw [unheld] at held
        cases held
    refine ⟨ends.isDrawn_of_tells told, ?_⟩
    obtain ⟨o, held, -⟩ := first (List.ne_nil_of_mem mem)
    have untold : tells conclusion x.answer = false := by
      rw [← Bool.not_eq_true]
      intro told'
      rw [(operationIn?_of_tells told').1] at held
      cases held
    have unreported : (x :: xs).any (reports conclusion ∘ (·.answer)) = false := by
      rw [List.any_eq_false]
      intro z mem
      obtain rfl | ⟨o, held, pending⟩ := others z mem
      · simp [reports, unheld]
      · simp [reports, held, pending]
    rw [evidence, List.any_map]
    exact Bool.or_eq_false_iff.mpr ⟨untold, unreported⟩

/-! ## What is heard -/

/-- The answer in an event, if it is one to a request that carries a token. -/
def heardIn? : Event Wire.asks → Option (Option Response)
  | ⟨.send r, x⟩ => if (r.header? "authorization").isSome then some x else none
  | _ => none

/-- The answers of the Compute API to what was asked, in order. -/
def heard (t : List (Event Wire.asks)) : List (Option Response) := t.filterMap heardIn?

theorem heard_append (t t' : List (Event Wire.asks)) : heard (t ++ t') = heard t ++ heard t' :=
  List.filterMap_append

/-- Nothing is heard while a token is fetched. -/
theorem heard_of_fetch {given : Except Error String} (h : TokenSupply.Fetch key t given) :
    heard t = [] := by
  have silent : ∀ e, TokenSupply.IsFetching e → heardIn? e = none := by
    rintro ⟨op, x⟩ (rfl | rfl) <;> rfl
  cases h with
  | fixed => rfl
  | fetched only | failed only =>
    exact List.filterMap_eq_nil_iff.mpr fun e mem => silent e (only e mem)

theorem heard_of_unsent {e : Error} (h : Unsent base key method path body t e) : heard t = [] := by
  obtain fetch | ⟨_, fetch, _⟩ := h
  · exact heard_of_fetch fetch
  · exact heard_of_fetch fetch

/-- An exchange is heard once. -/
theorem Exchange.Asks.heard (h : x.Asks base key method path body) :
    heard x.events = [x.answer] := by
  obtain ⟨-, token, fetch, formed⟩ := h
  obtain ⟨-, url, -, written⟩ := requestTo?_eq_some_iff.mp formed
  rw [events, heard_append, heard_of_fetch fetch, event, ← written]
  rfl

/-- Of a conversation its answers are heard. -/
theorem Conversation.heard (h : Conversation base key method path body xs tail r) :
    heard (xs.flatMap Exchange.events ++ tail) = xs.map (·.answer) := by
  have quiet : Rest.heard tail = [] := by
    obtain rfl | ⟨_, _, _, _, unsent⟩ := h.unsent_after
    · rfl
    · exact heard_of_unsent unsent
  have each : ∀ x ∈ xs, Rest.heard x.events = [x.answer] := by
    intro x mem
    obtain ⟨_, _, _, asks⟩ := h.asks x mem
    exact asks.heard
  rw [heard_append, quiet, List.append_nil, Rest.heard, List.filterMap_flatMap, List.map_eq_flatMap]
  exact List.flatMap_congr each

/-! ## Calls -/

/-- Whether a call ends with a conclusion. -/
def concludes (conclusion : Conclusion) : Except Error α → Bool
  | .ok _ => false
  | .error e => conclusion.isDrawn e

variable {c : Client} {supply supply' : TokenSupply}

/-- What a call that changes something concludes has evidence, or a wait misleads it; and if a wait
misleads it, it concludes without evidence. -/
theorem path_write {call : Call} (writes : call.isWrite = true) {r : Except Error call.Value}
    (h : Program.Path ((perform c call).run.run supply) t (r, supply')) (conclusion : Conclusion) :
    (concludes conclusion r = true →
      evidence conclusion (heard t) = true ∨ misleads conclusion (heard t) = true) ∧
    (misleads conclusion (heard t) = true →
      concludes conclusion r = true ∧ evidence conclusion (heard t) = false) := by
  obtain ⟨id, xs, tail, rfl, held⟩ := path_perform writes h
  have hears : heard (⟨.freshId, id⟩ :: (xs.flatMap Exchange.events ++ tail)) =
      xs.map (·.answer) := held.heard
  rw [hears]
  constructor
  · intro concluded
    cases r with
    | ok => cases concluded
    | error e => exact held.evidence_or_misleads concluded
  · intro misled
    obtain ⟨⟨e, failed, drawn⟩, unfounded⟩ := held.isDrawn_of_misleads misled
    refine ⟨?_, unfounded⟩
    cases r with
    | ok => cases failed
    | error e' =>
      cases failed
      exact drawn

theorem isDrawn_ofStatus (path : String) (status : Nat) (body : String) :
    conclusion.isDrawn (Error.ofStatus path status body) =
      (status == conclusion.status.toNat) := by
  simp only [Error.ofStatus]
  split
  · next missing =>
    subst missing
    cases conclusion <;> rfl
  · next found =>
    split
    · next present =>
      subst present
      cases conclusion <;> rfl
    · next free =>
      have other : (status == conclusion.status.toNat) = false := by
        rw [beq_eq_false_iff_ne]
        cases conclusion with
        | missing => exact found
        | present => exact free
      rw [other]
      split <;> cases conclusion <;> rfl

/-- An answer to a single request is a conclusion exactly if it has the status of it. -/
theorem concludes_readAnswer (read? : Json → Option α) (path : String) (answer : Option Response) :
    concludes conclusion (readAnswer path read? answer) = tells conclusion answer := by
  cases answer with
  | none => cases conclusion <;> rfl
  | some r =>
    by_cases succeeds : r.isSuccess = true
    · have untold : tells conclusion (some r) = false := by
        rw [← Bool.not_eq_true]
        intro told
        rw [(operationIn?_of_tells told).2 r rfl] at succeeds
        cases succeeds
      rw [untold, readAnswer, if_pos succeeds]
      split
      · rfl
      · cases conclusion <;> rfl
    · rw [readAnswer, if_neg succeeds]
      exact isDrawn_ofStatus path r.status r.body

theorem isSuccess_of_readAnswer {read? : Json → Option α} {answer : Option Response} {a : α}
    (h : readAnswer path read? answer = .ok a) : answer.any Response.isSuccess = true := by
  obtain ⟨r, rfl, succeeds, -⟩ := readAnswer_eq_ok_iff.mp h
  exact succeeds

/-- What getting a resource comes to: either nothing is heard and nothing concluded, or one answer
is heard, which decides what is concluded and is a success if the resource is read from it. -/
theorem path_get {kind : Kind} {name : String} {r : Except Error kind.Model}
    (h : Program.Path ((perform c (.get kind name)).run.run supply) t (r, supply')) :
    (heard t = [] ∧ ∃ e, r = .error e ∧ e.isNotFound = false) ∨
      ∃ x, heard t = [x] ∧ concludes .missing r = tells .missing x ∧
        ∀ m, r = .ok m → x.any Response.isSuccess = true := by
  obtain ⟨-, sending⟩ := path_send h
  cases sending with
  | unsent unsent =>
    have undrawn : Conclusion.missing.isDrawn _ = false := not_isDrawn_of_unsent unsent
    exact .inl ⟨heard_of_unsent unsent, _, rfl, undrawn⟩
  | sent x asks =>
    refine .inr ⟨x.answer, asks.heard, concludes_readAnswer _ _ _, fun m read => ?_⟩
    exact isSuccess_of_readAnswer read

/-! ## What is made of the errors of calls -/

theorem path_carryOut_done {a b : α}
    (h : Program.Path ((carryOut c (.done a)).run supply) t (b, supply')) :
    t = [] ∧ b = a ∧ supply' = supply := by
  obtain ⟨rfl, same⟩ := Program.path_done_iff.mp h
  cases same
  exact ⟨rfl, rfl, rfl⟩

/-- A call in a program is carried out with the tokens that are left, and the program goes on with
what it came to. -/
theorem path_carryOut_ask {call : Call} {next : call.Answer → Program Compute.calls α} {a : α}
    (h : Program.Path ((carryOut c (.ask call next)).run supply) t (a, supply')) :
    ∃ t₁ r supply₁ t₂, t = t₁ ++ t₂ ∧
      Program.Path ((perform c call).run.run supply) t₁ (r, supply₁) ∧
      Program.Path ((carryOut c (next r)).run supply₁) t₂ (a, supply') := by
  obtain ⟨t₁, ⟨r, supply₁⟩, t₂, parts, asked, rest⟩ := Program.path_bind_iff.mp h
  exact ⟨t₁, r, supply₁, t₂, parts, asked, rest⟩

/-- A deletion that finds nothing is one that concludes that the resource is missing. -/
theorem path_retire {kind : Kind} {name : String} {r : Except Error Bool}
    (h : Program.Path ((carryOut c (retire kind name)).run supply) t (r, supply')) :
    ∃ deleted supply₁, Program.Path ((perform c (.delete kind name)).run.run supply) t
        (deleted, supply₁) ∧ (r = .ok false ↔ concludes .missing deleted = true) := by
  obtain ⟨t₁, deleted, supply₁, t₂, rfl, asked, rest⟩ := path_carryOut_ask h
  cases deleted with
  | ok =>
    obtain ⟨rfl, rfl, -⟩ := path_carryOut_done rest
    rw [List.append_nil]
    exact ⟨_, supply₁, asked, by simp [concludes]⟩
  | error e =>
    rw [Program.done_bind] at rest
    by_cases missing : e.isNotFound = true
    · simp only [missing, if_true] at rest
      obtain ⟨rfl, rfl, -⟩ := path_carryOut_done rest
      rw [List.append_nil]
      exact ⟨_, supply₁, asked, by simp [concludes, Conclusion.isDrawn, missing]⟩
    · simp only [missing] at rest
      obtain ⟨rfl, rfl, -⟩ := path_carryOut_done rest
      rw [List.append_nil]
      exact ⟨_, supply₁, asked, by simp [concludes, Conclusion.isDrawn, missing]⟩

/-- A resource is brought about without a change only if it was read, or if it was missing and its
creation concludes that it is present. -/
theorem path_provide {name : String} {design : Design} {r : Except Error Outcome}
    (h : Program.Path ((carryOut c (provide name design)).run supply) t (r, supply')) :
    ∃ t₁ read supply₁ t₂, t = t₁ ++ t₂ ∧
      Program.Path ((perform c (.get design.kind name)).run.run supply) t₁ (read, supply₁) ∧
      ((∃ m, read = .ok m) ∨
        (concludes .missing read = false ∧ t₂ = [] ∧ r ≠ .ok .unchanged) ∨
        (concludes .missing read = true ∧ ∃ created supply₂,
          Program.Path ((perform c (.create name design)).run.run supply₁) t₂
            (created, supply₂) ∧
          (r = .ok .unchanged ↔ concludes .present created = true))) := by
  obtain ⟨t₁, read, supply₁, t₂, rfl, asked, rest⟩ := path_carryOut_ask h
  refine ⟨t₁, read, supply₁, t₂, rfl, asked, ?_⟩
  cases read with
  | ok m => exact .inl ⟨m, rfl⟩
  | error e =>
    rw [Program.done_bind] at rest
    by_cases missing : e.isNotFound = true
    · simp only [missing, if_true] at rest
      obtain ⟨t₃, created, supply₂, t₄, rfl, made, last⟩ := path_carryOut_ask rest
      refine .inr (.inr ⟨missing, created, supply₂, ?_⟩)
      cases created with
      | ok =>
        obtain ⟨rfl, rfl, -⟩ := path_carryOut_done last
        rw [List.append_nil]
        exact ⟨made, by simp [concludes]⟩
      | error e =>
        rw [Program.done_bind] at last
        by_cases present : e.isAlreadyExists = true
        · simp only [present, if_true] at last
          obtain ⟨rfl, rfl, -⟩ := path_carryOut_done last
          rw [List.append_nil]
          exact ⟨made, by simp [concludes, Conclusion.isDrawn, present]⟩
        · simp only [present] at last
          obtain ⟨rfl, rfl, -⟩ := path_carryOut_done last
          rw [List.append_nil]
          exact ⟨made, by simp [concludes, Conclusion.isDrawn, present]⟩
    · simp only [missing] at rest
      obtain ⟨rfl, rfl, -⟩ := path_carryOut_done rest
      exact .inr (.inl ⟨by simpa [concludes, Conclusion.isDrawn] using missing, rfl, by simp⟩)

/-! ## Conclusions by evidence -/

/-- What a program comes to and what is heard, with a peer that answers in a state. -/
def observe (handle : Handler exchanges σ) (ids : Nat → String) (p : Peer σ)
    (program : Program Wire.asks (α × TokenSupply)) : α × List (Option Response) :=
  ((program.run (Peer.answer handle ids) p).1.1,
    heard (program.trace (Peer.answer handle ids) p))

/-- A conclusion that has evidence or is misled, and that has none where it is misled, has evidence
exactly if it is not misled. -/
theorem founded_iff {drawn : Prop} {founded misled : Bool}
    (sound : drawn → founded = true ∨ misled = true)
    (unsound : misled = true → drawn ∧ founded = false) :
    (drawn → founded = true) ↔ misled = false := by
  constructor
  · intro has
    rw [← Bool.not_eq_true]
    intro wrong
    obtain ⟨concluded, none_⟩ := unsound wrong
    rw [has concluded] at none_
    cases none_
  · intro right concluded
    obtain has | wrong := sound concluded
    · exact has
    · rw [right] at wrong
      cases wrong

/-- What is observed is on a path. -/
theorem path_observe (handle : Handler exchanges σ) (ids : Nat → String) (p : Peer σ)
    (program : Program Wire.asks (α × TokenSupply)) :
    ∃ t supply', heard t = (observe handle ids p program).2 ∧
      Program.Path program t ((observe handle ids p program).1, supply') :=
  ⟨_, _, rfl, Program.path_run (Peer.answer handle ids) program p⟩

/-- Whoever answers, and wherever the tokens come from: a call that changes something concludes with
evidence that a resource is missing or present, exactly if no wait is answered with the status of
the conclusion. So a deletion that finds nothing has evidence, and so has a resource that is brought
about without a change where it could not be read before, but for the same answers to waits. -/
theorem conclusions_by_evidence (c : Client) (supply : TokenSupply)
    (handle : Handler exchanges σ) (ids : Nat → String) (p : Peer σ) :
    (∀ call conclusion, call.isWrite = true →
      let seen := observe handle ids p ((perform c call).run.run supply)
      (concludes conclusion seen.1 = true → evidence conclusion seen.2 = true) ↔
        misleads conclusion seen.2 = false) ∧
    (∀ kind name,
      let seen := observe handle ids p ((carryOut c (retire kind name)).run supply)
      (seen.1 = .ok false → evidence .missing seen.2 = true) ↔ misleads .missing seen.2 = false) ∧
    ∀ name design,
      let seen := observe handle ids p ((carryOut c (provide name design)).run supply)
      (seen.1 = .ok .unchanged → seen.2.head?.any (·.any Response.isSuccess) = true ∨
          evidence .present seen.2.tail = true) ↔
        (seen.2.head?.any (tells .missing) && misleads .present seen.2.tail) = false := by
  refine ⟨fun call conclusion writes => ?_, fun kind name => ?_, fun name design => ?_⟩
  · obtain ⟨t, supply', hears, path⟩ :=
      path_observe handle ids p ((perform c call).run.run supply)
    obtain ⟨sound, unsound⟩ := path_write writes path conclusion
    rw [hears] at sound unsound
    exact founded_iff sound unsound
  · obtain ⟨t, supply', hears, path⟩ :=
      path_observe handle ids p ((carryOut c (retire kind name)).run supply)
    obtain ⟨deleted, supply₁, made, same⟩ := path_retire path
    obtain ⟨sound, unsound⟩ := path_write rfl made .missing
    rw [hears, ← same] at sound unsound
    exact founded_iff sound unsound
  · obtain ⟨t, supply', hears, path⟩ :=
      path_observe handle ids p ((carryOut c (provide name design)).run supply)
    obtain ⟨t₁, read, supply₁, t₂, rfl, asked, rest⟩ := path_provide path
    rw [heard_append] at hears
    simp only [← hears]
    obtain ⟨silent, e, rfl, found⟩ | ⟨x, single, told, success⟩ := path_get asked
    · obtain ⟨m, same⟩ | ⟨-, rfl, other⟩ | ⟨missing, -⟩ := rest
      · cases same
      · rw [silent]
        simp [heard, other]
      · rw [concludes, Conclusion.isDrawn, found] at missing
        cases missing
    · rw [single]
      obtain ⟨m, rfl⟩ | ⟨present, rfl, other⟩ | ⟨missing, created, supply₂, made, same⟩ := rest
      · rw [concludes] at told
        simp [success m rfl, ← told]
      · rw [present] at told
        simp [other, ← told]
      · rw [missing] at told
        have fails : x.any Response.isSuccess = false := by
          cases x with
          | none => rfl
          | some r => exact (operationIn?_of_tells told.symm).2 r rfl
        obtain ⟨sound, unsound⟩ := path_write rfl made .present
        rw [← same] at sound unsound
        simpa [fails, ← told] using founded_iff sound unsound

end Rest

end ReplicaPorts.Compute

namespace ReplicaPorts.Small

open Compute Compute.Rest
open Http (Peer Script Response)

/-- An operation that is done and did not find its resource. -/
def failedAnswer : Response :=
  ⟨200, "\x7b\"name\":\"op\",\"status\":\"DONE\",\"error\":\x7b\x7d,\"httpErrorStatusCode\":404\x7d"⟩

/-- An answer to a wait that does not find the operation. -/
def lostAnswer : Response := ⟨404, ""⟩

/-- The deletion of a firewall, whose operation is under way when it is first answered. -/
def retirement (later : Response) : Except Error Bool × List (Option Response) :=
  observe Script.answer idAt { state := { responses := [pendingAnswer, later] } }
    ((carryOut client (retire .firewall "fw")).run (.fixed "t"))

/-- An operation that fails tells that the firewall is missing, and that is evidence. -/
theorem small_conclusions_by_evidence :
    (retirement failedAnswer).1 = .ok false ∧
      evidence .missing (retirement failedAnswer).2 = true := by
  obtain ⟨found, right⟩ : (retirement failedAnswer).1 = .ok false ∧
      misleads .missing (retirement failedAnswer).2 = false := by decide +kernel
  have sound := (conclusions_by_evidence client (.fixed "t") Script.answer idAt
    { state := { responses := [pendingAnswer, failedAnswer] } }).2.1 .firewall "fw"
  exact ⟨found, sound.mpr right found⟩

/-- A wait that does not find the operation is taken for a missing firewall, although the operation
is under way: the deletion passes for one of nothing, without evidence. -/
theorem small_wait_taken_for_missing :
    retirement lostAnswer = (.ok false, [some pendingAnswer, some lostAnswer]) ∧
      evidence .missing (retirement lostAnswer).2 = false := by
  decide +kernel

end ReplicaPorts.Small
