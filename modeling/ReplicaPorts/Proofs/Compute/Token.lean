import ReplicaPorts.Compute.Token
import ReplicaPorts.Proofs.Program.Path

/-!
# Tokens that are kept

Tokens are asked for in turns, each turn with the supply that the one before it left (`Turns`). What
one turn asks, gives and leaves is a table of three lines (`Serves`, `Renews`): the token that is
kept counts, or the metadata server fails, or it brings a token. So what is kept after some turns is
just the token that was got last (`Turns.kept_iff`).

`token_by_history` speaks of nothing but what happened before a turn. The turn sends no request
exactly while the token that was got last counts, and gives that one. Else it sends one request, and
the answer decides what comes of it; one that brings no token changes nothing, and the next turn
sends a request again. Times are those that the clock gave, and they never go back.
-/

set_option autoImplicit false

namespace ReplicaPorts.Compute

open Http (Wire Request Response)

/-- Taking the slack off the seconds that a token has left does not overflow. -/
def FetchedToken.Fits (token : FetchedToken) : Prop :=
  Int64.minValue.toInt + TokenSupply.slack.toInt ≤ token.expiresIn.toInt

namespace TokenSupply

variable {token token' : FetchedToken} {time time' : Int} {answer : Option Response}

/-- A token that was got at a time, as it is kept. -/
def keep (token : FetchedToken) (time : Int) : KeptToken :=
  ⟨token.value, time + (lifetime token).toInt * second⟩

theorem toInt_max (a b : Int64) : (max a b).toInt = max a.toInt b.toInt := by
  rw [Int.max_def, show max a b = if a ≤ b then b else a from rfl]
  simp only [Int64.le_iff_toInt_le]
  split <;> rfl

/-- How long a token is kept, in numbers without bounds. -/
theorem toInt_lifetime (fits : token.Fits) :
    (lifetime token).toInt = max (token.expiresIn.toInt - 60) 0 := by
  have low : -2 ^ 63 + 60 ≤ token.expiresIn.toInt := fits
  have high : token.expiresIn.toInt < 2 ^ 63 := token.expiresIn.toInt_lt
  have less : (token.expiresIn - slack).toInt = token.expiresIn.toInt - 60 := by
    rw [Int64.toInt_sub]
    exact Int.bmod_eq_of_le (by simp [slack]; omega) (by simp [slack]; omega)
  rw [lifetime, toInt_max, less]
  rfl

/-! ## Answers -/

/-- An answer of the metadata server brings a token. -/
def Brings (answer : Option Response) (token : FetchedToken) : Prop :=
  ∃ r, answer = some r ∧ r.isSuccess = true ∧
    Json.ofText? r.body >>= FetchedToken.ofJson? = some token

theorem Brings.unique (h : Brings answer token) (h' : Brings answer token') : token = token' := by
  obtain ⟨r, rfl, -, read⟩ := h
  obtain ⟨_, ⟨⟩, -, read'⟩ := h'
  exact Option.some.inj (read.symm.trans read')

theorem readToken_eq_ok_iff : readToken answer = .ok token ↔ Brings answer token := by
  constructor
  · intro h
    unfold readToken at h
    split at h
    · cases h
    · next r =>
      split at h
      · next succeeds =>
        split at h
        · next read =>
          cases h
          exact ⟨r, rfl, succeeds, read⟩
        · cases h
      · cases h
  · rintro ⟨r, rfl, succeeds, read⟩
    simp only [readToken, succeeds, if_true, read]

/-- An answer that is no success is a matter of authentication. -/
theorem readToken_of_failure {r : Response} (fails : r.isSuccess = false) :
    ∃ message, readToken (some r) = .error (.authentication message) := by
  simp only [readToken, fails]
  exact ⟨_, rfl⟩

/-- What fails without a token is no word about a resource. -/
theorem readToken_error {e : Error} (h : readToken answer = .error e) :
    e = .transport ∨ ∃ message, e = .authentication message := by
  unfold readToken at h
  split at h
  · exact .inl (Except.error.inj h).symm
  · split at h
    · split at h
      · cases h
      · exact .inl (Except.error.inj h).symm
    · exact .inr ⟨_, (Except.error.inj h).symm⟩

/-! ## One turn -/

variable {kept kept' : Option KeptToken} {t : List (Event Wire.asks)} {given : Except Error String}
  {supply supply' : TokenSupply}

/-- What a request for a token is answered, gives and leaves. -/
inductive Renews (kept : Option KeptToken) :
    List (Event Wire.asks) → Except Error String → Option KeptToken → Prop
  | failed {answer : Option Response} {e : Error} (read : readToken answer = .error e) :
      Renews kept [⟨.send tokenRequest, answer⟩] (.error e) kept
  | got {answer : Option Response} {token : FetchedToken} (read : readToken answer = .ok token)
      (time : Int) :
      Renews kept [⟨.send tokenRequest, answer⟩, ⟨.now, time⟩] (.ok token.value)
        (some (keep token time))

/-- What is asked to find out that no token is kept that counts. -/
inductive Lapsed : Option KeptToken → List (Event Wire.asks) → Prop
  | nothing : Lapsed none []
  | ended {k : KeptToken} {now : Int} (ended : k.expiry ≤ now) : Lapsed (some k) [⟨.now, now⟩]

/-- What is asked for a token, given and left, by what is kept. -/
inductive Serves (kept : Option KeptToken) :
    List (Event Wire.asks) → Except Error String → Option KeptToken → Prop
  | counts {k : KeptToken} {now : Int} (holds : kept = some k) (counts : now < k.expiry) :
      Serves kept [⟨.now, now⟩] (.ok k.value) kept
  | renews {checks t : List (Event Wire.asks)} {given : Except Error String}
      {kept' : Option KeptToken} (lapsed : Lapsed kept checks)
      (renews : Renews kept t given kept') : Serves kept (checks ++ t) given kept'

theorem path_refresh_iff :
    Program.Path (refresh kept) t (given, supply') ↔
      ∃ kept', supply' = .metadata kept' ∧ Renews kept t given kept' := by
  constructor
  · intro h
    obtain ⟨t₁, answer, t₂, rfl, asked, rest⟩ := Program.path_bind_iff.mp h
    obtain rfl := Program.path_call_iff.mp asked
    cases read : readToken answer with
    | error e =>
      rw [read] at rest
      obtain ⟨rfl, same⟩ := Program.path_done_iff.mp rest
      cases same
      exact ⟨kept, rfl, .failed read⟩
    | ok token =>
      rw [read] at rest
      obtain ⟨t₃, time, t₄, rfl, timed, last⟩ := Program.path_bind_iff.mp rest
      obtain rfl := Program.path_call_iff.mp timed
      obtain ⟨rfl, same⟩ := Program.path_done_iff.mp last
      cases same
      exact ⟨_, rfl, .got read time⟩
  · rintro ⟨kept', rfl, renews⟩
    refine Program.path_bind_iff.mpr ?_
    cases renews with
    | failed read =>
      refine ⟨_, _, [], rfl, Program.path_call_iff.mpr rfl, ?_⟩
      rw [read]
      exact .done _
    | got read time =>
      refine ⟨[_], _, [_], rfl, Program.path_call_iff.mpr rfl, ?_⟩
      rw [read]
      exact Program.path_bind_iff.mpr ⟨[_], time, [], rfl, Program.path_call_iff.mpr rfl, .done _⟩

/-- How a token comes about where the metadata server gives them. -/
theorem path_metadata_iff :
    Program.Path (metadata kept).token t (given, supply') ↔
      ∃ kept', supply' = .metadata kept' ∧ Serves kept t given kept' := by
  cases kept with
  | none =>
    refine path_refresh_iff.trans (exists_congr fun kept' => and_congr_right fun _ => ?_)
    constructor
    · exact .renews .nothing
    · rintro (⟨⟨⟩, -⟩ | ⟨⟨⟩, renews⟩)
      exact renews
  | some k =>
    constructor
    · intro h
      obtain ⟨t₁, now, t₂, rfl, timed, rest⟩ := Program.path_bind_iff.mp h
      obtain rfl := Program.path_call_iff.mp timed
      by_cases counts : now < k.expiry
      · rw [if_pos counts] at rest
        obtain ⟨rfl, same⟩ := Program.path_done_iff.mp rest
        cases same
        exact ⟨_, rfl, .counts rfl counts⟩
      · rw [if_neg counts] at rest
        obtain ⟨kept', rfl, renews⟩ := path_refresh_iff.mp rest
        exact ⟨kept', rfl, .renews (.ended (Int.not_lt.mp counts)) renews⟩
    · rintro ⟨kept', rfl, serves⟩
      refine Program.path_bind_iff.mpr ?_
      cases serves with
      | @counts _ now holds counts =>
        cases holds
        refine ⟨_, now, [], rfl, Program.path_call_iff.mpr rfl, ?_⟩
        rw [if_pos counts]
        exact .done _
      | renews lapsed renews =>
        cases lapsed with
        | @ended _ now ended =>
          refine ⟨[_], now, _, rfl, Program.path_call_iff.mpr rfl, ?_⟩
          rw [if_neg (Int.not_lt.mpr ended)]
          exact path_refresh_iff.mpr ⟨_, rfl, renews⟩

/-! ## Turns -/

/-- A call for a token: what it asked, with the answers, and what it gave. -/
structure Turn where
  asked : List (Event Wire.asks)
  given : Except Error String

/-- A request that was sent, with its answer. -/
def exchange? : Event Wire.asks → Option (Request × Option Response)
  | ⟨.send request, answer⟩ => some (request, answer)
  | _ => none

/-- A time that the clock gave. -/
def reading? : Event Wire.asks → Option Int
  | ⟨.now, time⟩ => some time
  | _ => none

namespace Turn

/-- A turn leads from one supply to another. -/
def Leads (turn : Turn) (supply supply' : TokenSupply) : Prop :=
  Program.Path supply.token turn.asked (turn.given, supply')

def exchanges (turn : Turn) : List (Request × Option Response) := turn.asked.filterMap exchange?

def readings (turn : Turn) : List Int := turn.asked.filterMap reading?

/-- A turn got this token at this time: that is when the answer had come. -/
def Gets (turn : Turn) (token : FetchedToken) (time : Int) : Prop :=
  ∃ before answer, turn.asked = before ++ [⟨.send tokenRequest, answer⟩, ⟨.now, time⟩] ∧
    Brings answer token

/-- At the first time that the clock gives in a turn, what is kept does not count. -/
def Outlasts (turn : Turn) (kept : Option KeptToken) : Prop :=
  ∀ k, kept = some k → ∃ now, turn.readings.head? = some now ∧ k.expiry ≤ now

end Turn

variable {turn : Turn} {turns : List Turn}

/-- Turns one after the other, from one supply to another. -/
inductive Turns (start : TokenSupply) : List Turn → TokenSupply → Prop
  | nil : Turns start [] start
  | snoc {turns : List Turn} {turn : Turn} {supply supply' : TokenSupply}
      (earlier : Turns start turns supply) (last : turn.Leads supply supply') :
      Turns start (turns ++ [turn]) supply'

/-- All times that the clock gave, in order. -/
def readings (turns : List Turn) : List Int := turns.flatMap Turn.readings

/-- This token was got at this time, and none since then. -/
def Latest (turns : List Turn) (token : FetchedToken) (time : Int) : Prop :=
  ∃ before turn after, turns = before ++ turn :: after ∧ turn.Gets token time ∧
    ∀ later ∈ after, ∀ token time, ¬ later.Gets token time

theorem Turn.Gets.unique (h : turn.Gets token time) (h' : turn.Gets token' time') :
    token = token' ∧ time = time' := by
  obtain ⟨before, answer, asked, brings⟩ := h
  obtain ⟨before', answer', asked', brings'⟩ := h'
  cases List.append_inj_right' (asked.symm.trans asked') rfl
  exact ⟨brings.unique brings', rfl⟩

/-- What a turn got came in answer to a request. -/
theorem Turn.Gets.exchange (h : turn.Gets token time) :
    ∃ answer, (tokenRequest, answer) ∈ turn.exchanges ∧ Brings answer token := by
  obtain ⟨before, answer, asked, brings⟩ := h
  refine ⟨answer, ?_, brings⟩
  rw [Turn.exchanges, asked, List.filterMap_append]
  exact List.mem_append_right _ List.mem_cons_self

theorem Turn.Gets.reading (h : turn.Gets token time) : time ∈ turn.readings := by
  obtain ⟨before, answer, asked, -⟩ := h
  rw [Turn.readings, asked, List.filterMap_append]
  exact List.mem_append_right _ List.mem_cons_self

/-- What is seen of a turn: it gives what is kept and counts at the time that the clock gives, or it
outlasts what is kept and sends a request. -/
theorem Serves.seen (h : Serves kept turn.asked turn.given kept') :
    (∃ k now, kept = some k ∧ now < k.expiry ∧ turn.exchanges = [] ∧ turn.readings = [now] ∧
      turn.given = .ok k.value ∧ kept' = kept) ∨
    ∃ answer, turn.exchanges = [(tokenRequest, answer)] ∧ turn.Outlasts kept ∧
      ((∃ e, readToken answer = .error e ∧ turn.given = .error e ∧ kept' = kept) ∨
        ∃ token time, Brings answer token ∧ turn.Gets token time ∧
          turn.given = .ok token.value ∧ kept' = some (keep token time)) := by
  obtain ⟨asked, given⟩ := turn
  cases h with
  | @counts k now holds counts => exact .inl ⟨k, now, holds, counts, rfl, rfl, rfl, rfl⟩
  | @renews checks t _ _ lapsed renews =>
    have silent : checks.filterMap exchange? = [] := by cases lapsed <;> rfl
    have seen : Turn.exchanges ⟨checks ++ t, given⟩ = t.filterMap exchange? := by
      rw [Turn.exchanges, List.filterMap_append, silent, List.nil_append]
    have past : Turn.Outlasts ⟨checks ++ t, given⟩ kept := by
      rintro k rfl
      cases lapsed with
      | ended ended => exact ⟨_, rfl, ended⟩
    cases renews with
    | failed read => exact .inr ⟨_, seen, past, .inl ⟨_, read, rfl, rfl⟩⟩
    | got read time =>
      have brings := readToken_eq_ok_iff.mp read
      exact .inr ⟨_, seen, past, .inr ⟨_, time, brings, ⟨checks, _, rfl, brings⟩, rfl, rfl⟩⟩

/-- A turn gets a token, which is kept from then on, or it gets none and leaves what is kept. -/
theorem Serves.gets_or_keeps (h : Serves kept turn.asked turn.given kept') :
    (∃ token time, turn.Gets token time ∧ kept' = some (keep token time)) ∨
      (∀ token time, ¬ turn.Gets token time) ∧ kept' = kept := by
  obtain ⟨k, now, -, -, silent, -, -, same⟩ | ⟨answer, sent, -, outcome⟩ := h.seen
  · refine .inr ⟨fun token time gets => ?_, same⟩
    obtain ⟨answer, sent, -⟩ := gets.exchange
    rw [silent] at sent
    cases sent
  · obtain ⟨e, read, -, same⟩ | ⟨token, time, -, gets, -, kept_⟩ := outcome
    · refine .inr ⟨fun token time gets => ?_, same⟩
      obtain ⟨answer', sent', brings⟩ := gets.exchange
      rw [sent] at sent'
      cases List.mem_singleton.mp sent'
      rw [readToken_eq_ok_iff.mpr brings] at read
      cases read
    · exact .inl ⟨token, time, gets, kept_⟩

/-! ## Histories -/

theorem not_latest_nil : ¬ Latest [] token time := by
  rintro ⟨before, turn, after, same, -⟩
  exact List.append_ne_nil_of_right_ne_nil before (List.cons_ne_nil turn after) same.symm

/-- The token that was got last is that of the last turn, or of an earlier one if this got none. -/
theorem latest_snoc : Latest (turns ++ [turn]) token time ↔
    turn.Gets token time ∨ (∀ token time, ¬ turn.Gets token time) ∧ Latest turns token time := by
  constructor
  · rintro ⟨before, turn', after, same, gets, later⟩
    obtain rfl | ⟨after, last, rfl⟩ := after.eq_nil_or_concat
    · cases (List.append_inj' same rfl).2
      exact .inl gets
    · rw [List.concat_eq_append] at same later
      rw [← List.cons_append, ← List.append_assoc] at same
      obtain ⟨rfl, single⟩ := List.append_inj' same rfl
      cases single
      exact .inr ⟨later turn (List.mem_append_right _ List.mem_cons_self),
        before, turn', after, rfl, gets, fun l mem => later l (List.mem_append_left _ mem)⟩
  · rintro (gets | ⟨none_, before, turn', after, rfl, gets, later⟩)
    · exact ⟨turns, turn, [], rfl, gets, fun _ mem => (List.not_mem_nil mem).elim⟩
    · have same : before ++ turn' :: after ++ [turn] = before ++ turn' :: (after ++ [turn]) :=
        List.append_assoc _ _ _
      refine ⟨before, turn', after ++ [turn], same, gets, fun l mem => ?_⟩
      obtain mem | last := List.mem_append.mp mem
      · exact later l mem
      · exact List.mem_singleton.mp last ▸ none_

/-- What is kept after some turns is the token that was got last. -/
theorem Turns.kept_iff (h : Turns (.metadata none) turns supply) :
    ∃ kept, supply = .metadata kept ∧
      ∀ k, kept = some k ↔ ∃ token time, Latest turns token time ∧ k = keep token time := by
  induction h with
  | nil =>
    refine ⟨none, rfl, fun k => iff_of_false nofun ?_⟩
    rintro ⟨token, time, latest, -⟩
    exact not_latest_nil latest
  | snoc earlier last ih =>
    obtain ⟨kept, rfl, history⟩ := ih
    obtain ⟨kept', rfl, serves⟩ := path_metadata_iff.mp last
    refine ⟨kept', rfl, fun k => ?_⟩
    obtain ⟨token, time, gets, rfl⟩ | ⟨none_, rfl⟩ := serves.gets_or_keeps
    · rw [Option.some.injEq]
      constructor
      · rintro rfl
        exact ⟨token, time, latest_snoc.mpr (.inl gets), rfl⟩
      · rintro ⟨token', time', latest, rfl⟩
        obtain gets' | ⟨none_, -⟩ := latest_snoc.mp latest
        · obtain ⟨rfl, rfl⟩ := gets.unique gets'
          rfl
        · exact (none_ _ _ gets).elim
    · simp only [latest_snoc, none_, false_or, not_false_eq_true, implies_true, true_and]
      exact history k

/-- A supply of one token gives it, and asks for nothing. -/
theorem Turns.fixed {value : String} (h : Turns (.fixed value) turns supply) :
    supply = .fixed value ∧ ∀ turn ∈ turns, turn.asked = [] ∧ turn.given = .ok value := by
  induction h with
  | nil => exact ⟨rfl, fun _ mem => (List.not_mem_nil mem).elim⟩
  | snoc earlier last ih =>
    obtain ⟨rfl, before⟩ := ih
    obtain ⟨asked, same⟩ := Program.path_done_iff.mp last
    obtain ⟨given, supply⟩ := Prod.mk.inj same
    refine ⟨supply.symm, fun turn mem => ?_⟩
    obtain mem | last := List.mem_append.mp mem
    · exact before turn mem
    · obtain rfl := List.mem_singleton.mp last
      exact ⟨asked, given.symm⟩

/-! ## Times -/

theorem readings_snoc : readings (turns ++ [turn]) = readings turns ++ turn.readings := by
  simp [readings]

/-- A token was got no later than what the clock gives afterwards. -/
theorem Latest.le (h : Latest turns token time)
    (ordered : (readings (turns ++ [turn])).Pairwise (· ≤ ·)) :
    ∀ now ∈ turn.readings, time ≤ now := by
  obtain ⟨before, turn', after, rfl, gets, -⟩ := h
  rw [readings_snoc, List.pairwise_append] at ordered
  refine ordered.2.2 time (List.mem_flatMap.mpr ⟨turn', ?_, gets.reading⟩)
  exact List.mem_append_right before List.mem_cons_self

theorem expiry_keep (fits : token.Fits) (time : Int) :
    (keep token time).expiry = time + max (token.expiresIn.toInt - 60) 0 * second := by
  rw [keep, toInt_lifetime fits]

/-- A token that counts at a time since it was got has more than the slack left. -/
theorem lt_of_counts (fits : token.Fits) (since : time ≤ time')
    (counts : time' < (keep token time).expiry) :
    time' + 60 * second < time + token.expiresIn.toInt * second := by
  rw [expiry_keep fits, second] at counts
  rw [second]
  omega

/-- Where nothing that is kept counts, nothing counts later. -/
theorem Serves.sends {next : Turn} (h : Serves kept next.asked next.given kept')
    (past : turn.Outlasts kept) (ordered : (readings [turn, next]).Pairwise (· ≤ ·)) :
    ∃ answer, next.exchanges = [(tokenRequest, answer)] := by
  obtain ⟨k, now, holds, counts, -, reading, -⟩ | ⟨answer, sent, -⟩ := h.seen
  · obtain ⟨before, first, ended⟩ := past k holds
    have times : readings [turn, next] = turn.readings ++ [now] := by simp [readings, reading]
    rw [times, List.pairwise_append] at ordered
    have later : before ≤ now :=
      ordered.2.2 before (List.mem_of_head? first) now (List.mem_singleton_self now)
    exact (Int.not_le.mpr counts (Int.le_trans ended later)).elim
  · exact ⟨answer, sent⟩

/-! ## What comes of an answer -/

/-- What comes of a request with this answer in a turn from one supply to another. -/
structure Answered (supply : TokenSupply) (turn : Turn) (supply' : TokenSupply)
    (answer : Option Response) : Prop where
  /-- A token that comes is given and kept, for however short. -/
  brings : ∀ token, Brings answer token → turn.given = .ok token.value ∧
    ∃ time, turn.Gets token time ∧ supply' = .metadata (some
      ⟨token.value, time + max (token.expiresIn.toInt - 60) 0 * second⟩)
  refuses : ∀ r, answer = some r → r.isSuccess = false →
    ∃ message, turn.given = .error (.authentication message)
  /-- If none comes, what is kept stays as it is, and the next turn sends a request. -/
  lacks : (∀ token, ¬ Brings answer token) →
    (∃ e, turn.given = .error e) ∧ supply' = supply ∧
      ∀ next supply'', next.Leads supply' supply'' →
        (readings [turn, next]).Pairwise (· ≤ ·) →
        ∃ answer', next.exchanges = [(tokenRequest, answer')]

theorem answered_of_error {e : Error} (read : readToken answer = .error e)
    (given : turn.given = .error e) (past : turn.Outlasts kept) :
    Answered (.metadata kept) turn (.metadata kept) answer where
  brings token brings := by
    rw [readToken_eq_ok_iff.mpr brings] at read
    cases read
  refuses r answered fails := by
    obtain ⟨message, told⟩ := readToken_of_failure fails
    rw [answered, told] at read
    exact ⟨message, given.trans (congrArg Except.error (Except.error.inj read).symm)⟩
  lacks _ := by
    refine ⟨⟨e, given⟩, rfl, fun next supply'' leads ordered => ?_⟩
    obtain ⟨_, -, serves⟩ := path_metadata_iff.mp leads
    exact serves.sends past ordered

theorem answered_of_gets (gets : turn.Gets token time) (fits : token.Fits)
    (brings : Brings answer token) (given : turn.given = .ok token.value) :
    Answered supply turn (.metadata (some (keep token time))) answer where
  brings token' brings' := by
    obtain rfl := brings.unique brings'
    exact ⟨given, time, gets, by rw [← expiry_keep fits]; rfl⟩
  refuses r answered fails := by
    obtain ⟨r', answered', succeeds, -⟩ := brings
    cases answered.symm.trans answered'
    rw [fails] at succeeds
    cases succeeds
  lacks none_ := (none_ token brings).elim

/-! ## Histories tell -/

/-- A turn after others, whatever these came to. It sends no request exactly if the clock gives a
time at which the token that was got last counts; then it gives that token, of which more than the
slack is left, and leaves what is kept. Else it sends one request, and the answer decides what comes
of it. A supply of one token asks for nothing. -/
theorem token_by_history (earlier : Turns (.metadata none) turns supply)
    (call : turn.Leads supply supply')
    (ordered : (readings (turns ++ [turn])).Pairwise (· ≤ ·))
    (fits : ∀ turn' ∈ turns ++ [turn], ∀ token time, turn'.Gets token time → token.Fits) :
    (turn.exchanges = [] ↔ ∃ token time now, Latest turns token time ∧
      turn.readings.head? = some now ∧
      now < time + max (token.expiresIn.toInt - 60) 0 * second) ∧
    (turn.exchanges = [] → supply' = supply ∧ ∃ token time, Latest turns token time ∧
      turn.given = .ok token.value ∧
      ∀ now ∈ turn.readings, now + 60 * second < time + token.expiresIn.toInt * second) ∧
    (turn.exchanges ≠ [] → tokenRequest.header? "metadata-flavor" = some "Google" ∧
      ∃ answer, turn.exchanges = [(tokenRequest, answer)] ∧ Answered supply turn supply' answer) ∧
    ∀ value turns' supply', Turns (.fixed value) turns' supply' →
      supply' = .fixed value ∧ ∀ turn' ∈ turns', turn'.asked = [] ∧ turn'.given = .ok value := by
  obtain ⟨kept, rfl, history⟩ := earlier.kept_iff
  obtain ⟨kept', rfl, serves⟩ := path_metadata_iff.mp call
  have lastFits {token time} (latest : Latest turns token time) : token.Fits := by
    obtain ⟨before, turn', after, rfl, gets, -⟩ := latest
    exact fits turn' (by simp) token time gets
  obtain ⟨k, now, holds, counts, silent, reading, given, same⟩ | ⟨answer, sent, past, outcome⟩ :=
    serves.seen
  · obtain ⟨token, time, latest, rfl⟩ := (history k).mp holds
    have left := lt_of_counts (lastFits latest)
      (latest.le ordered now (reading ▸ List.mem_singleton_self now)) counts
    rw [expiry_keep (lastFits latest)] at counts
    refine ⟨iff_of_true silent ⟨token, time, now, latest, by rw [reading]; rfl, counts⟩,
      fun _ => ⟨by rw [same], token, time, latest, given, ?_⟩,
      fun sends => (sends silent).elim, fun _ _ _ => Turns.fixed⟩
    rw [reading]
    exact List.forall_mem_singleton.mpr left
  · have sends : turn.exchanges ≠ [] := by
      rw [sent]
      exact List.cons_ne_nil _ _
    refine ⟨iff_of_false sends ?_, fun silent => (sends silent).elim,
      fun _ => ⟨rfl, answer, sent, ?_⟩, fun _ _ _ => Turns.fixed⟩
    · rintro ⟨token, time, now, latest, first, counts⟩
      obtain ⟨now', first', ended⟩ := past _ ((history _).mpr ⟨token, time, latest, rfl⟩)
      obtain rfl := Option.some.inj (first.symm.trans first')
      rw [expiry_keep (lastFits latest)] at ended
      exact Int.not_lt.mpr ended counts
    · obtain ⟨e, read, given, rfl⟩ | ⟨token, time, brings, gets, given, rfl⟩ := outcome
      · exact answered_of_error read given past
      · exact answered_of_gets gets (fits turn (by simp) token time gets) brings given

end TokenSupply

end ReplicaPorts.Compute

namespace ReplicaPorts.Small

open Compute TokenSupply
open Http (Response)

/-- A token with one second more than the slack. -/
def shortToken : FetchedToken := ⟨"a", 61⟩

def shortAnswer : Response := ⟨200, "\x7b\"access_token\":\"a\",\"expires_in\":61\x7d"⟩

/-- The token is fetched. -/
def firstTurn : Turn := ⟨[⟨.send tokenRequest, some shortAnswer⟩, ⟨.now, 5000000000⟩], .ok "a"⟩

/-- A nanosecond before its time is over it is given again. -/
def nextTurn : Turn := ⟨[⟨.now, 5999999999⟩], .ok "a"⟩

/-- When its time is over another one is asked for, and refused. -/
def lateTurn : Turn where
  asked := [⟨.now, 6000000000⟩, ⟨.send tokenRequest, some ⟨403, "no"⟩⟩]
  given := .error (.authentication "metadata server returned 403 Forbidden: no")

theorem small_token_by_history :
    (nextTurn.exchanges = [] ∧ ∃ token time, Latest [firstTurn] token time ∧
      nextTurn.given = .ok token.value) ∧
    ∃ answer, lateTurn.exchanges = [(tokenRequest, answer)] ∧ (∀ token, ¬ Brings answer token) ∧
      Answered (.metadata (some (keep shortToken 5000000000))) lateTurn
        (.metadata (some (keep shortToken 5000000000))) answer := by
  have brings : Brings (some shortAnswer) shortToken := ⟨shortAnswer, rfl, rfl, by decide +kernel⟩
  have expiry : (keep shortToken 5000000000).expiry = 6000000000 := by decide
  have first : firstTurn.Leads (.metadata none) (.metadata (some (keep shortToken 5000000000))) :=
    path_metadata_iff.mpr
      ⟨_, rfl, .renews .nothing (.got (readToken_eq_ok_iff.mpr brings) 5000000000)⟩
  have next : nextTurn.Leads (.metadata (some (keep shortToken 5000000000)))
      (.metadata (some (keep shortToken 5000000000))) :=
    path_metadata_iff.mpr ⟨_, rfl, .counts rfl (by rw [expiry]; omega)⟩
  have late : lateTurn.Leads (.metadata (some (keep shortToken 5000000000)))
      (.metadata (some (keep shortToken 5000000000))) :=
    path_metadata_iff.mpr ⟨_, rfl, .renews (.ended (Int.le_of_eq expiry)) (.failed rfl)⟩
  have gets : firstTurn.Gets shortToken 5000000000 := ⟨[], _, rfl, brings⟩
  have refused : ∀ token, ¬ Brings (some ⟨403, "no"⟩) token := by
    rintro token ⟨_, ⟨⟩, succeeds, -⟩
    cases succeeds
  have fits : ∀ turn ∈ [firstTurn, nextTurn, lateTurn], ∀ token time,
      turn.Gets token time → token.Fits := by
    simp only [List.forall_mem_cons]
    refine ⟨fun token time gets' => ?_, fun token time gets' => ?_, fun token time gets' => ?_,
      fun _ mem => (List.not_mem_nil mem).elim⟩
    · obtain ⟨rfl, -⟩ := gets.unique gets'
      unfold FetchedToken.Fits
      decide
    · obtain ⟨answer, sent, -⟩ := gets'.exchange
      cases sent
    · obtain ⟨answer, sent, brings'⟩ := gets'.exchange
      cases List.mem_singleton.mp sent
      exact (refused token brings').elim
  have latest : Latest [firstTurn] shortToken 5000000000 :=
    ⟨[], firstTurn, [], rfl, gets, fun _ mem => (List.not_mem_nil mem).elim⟩
  have silent := token_by_history (.snoc .nil first) next (by decide) fun turn mem =>
    fits turn (List.mem_append_left [lateTurn] mem)
  have spoken := token_by_history (.snoc (.snoc .nil first) next) late (by decide) fits
  have quiet : nextTurn.exchanges = [] :=
    silent.1.mpr ⟨_, _, 5999999999, latest, rfl, by decide⟩
  obtain ⟨-, answer, sent, answered⟩ := spoken.2.2.1 (List.cons_ne_nil _ _)
  refine ⟨⟨quiet, ?_⟩, answer, sent, ?_, answered⟩
  · obtain ⟨-, token, time, latest, given, -⟩ := silent.2.1 quiet
    exact ⟨token, time, latest, given⟩
  · cases sent
    exact refused

end ReplicaPorts.Small
