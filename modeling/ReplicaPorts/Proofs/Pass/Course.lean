import ReplicaPorts.Proofs.Pass.Path

/-!
# Courses

A course says what a pass may ask, place by place; some places may be left out. `Begun` holds of
what was asked when it goes along a course up to some place, `Finished` when it goes along all of
it. `Keeps` ties a pass to a course whoever answers: it goes along the course, to the end when it
succeeds; a call that fails it is its last, and the error is that of the call; and an error that no
call raised is one that the pass is known to raise itself.

The rules say what follows for a pass put together from others (`Keeps.bind`), and for one whose
errors are given a step (`Keeps.during`).
-/

set_option autoImplicit false

namespace ReplicaPorts.Pass

variable {α β : Type}

/-- A place of a course. -/
structure Place where
  admits : Ask → Prop
  optional : Bool

namespace Place

/-- The place of one ask. -/
def must (a : Ask) : Place := ⟨(· = a), false⟩

/-- The place of at most one ask of a sort. -/
def may (admits : Ask → Prop) : Place := ⟨admits, true⟩

end Place

/-- What was asked goes along a course, as far as it comes. -/
inductive Begun : List Place → List Ask → Prop where
  | stop (course : List Place) : Begun course []
  | take {place : Place} {course : List Place} {a : Ask} {as : List Ask} (h : place.admits a)
      (rest : Begun course as) : Begun (place :: course) (a :: as)
  | skip {place : Place} {course : List Place} {as : List Ask} (h : place.optional = true)
      (rest : Begun course as) : Begun (place :: course) as

/-- What was asked goes along a course to its end. -/
inductive Finished : List Place → List Ask → Prop where
  | nil : Finished [] []
  | take {place : Place} {course : List Place} {a : Ask} {as : List Ask} (h : place.admits a)
      (rest : Finished course as) : Finished (place :: course) (a :: as)
  | skip {place : Place} {course : List Place} {as : List Ask} (h : place.optional = true)
      (rest : Finished course as) : Finished (place :: course) as

theorem Finished.begun {course : List Place} {as : List Ask} (h : Finished course as) :
    Begun course as := by
  induction h with
  | nil => exact .stop []
  | take h _ ih => exact .take h ih
  | skip h _ ih => exact .skip h ih

/-- Further places do not matter to what stopped before them. -/
theorem Begun.extend {course : List Place} {as : List Ask} (h : Begun course as)
    (more : List Place) : Begun (course ++ more) as := by
  induction h with
  | stop course => exact .stop _
  | take h _ ih => exact .take h ih
  | skip h _ ih => exact .skip h ih

theorem Finished.append {course more : List Place} {as bs : List Ask} (h : Finished course as)
    (h' : Finished more bs) : Finished (course ++ more) (as ++ bs) := by
  induction h with
  | nil => exact h'
  | take h _ ih => exact .take h ih
  | skip h _ ih => exact .skip h ih

theorem Finished.append_begun {course more : List Place} {as bs : List Ask}
    (h : Finished course as) (h' : Begun more bs) : Begun (course ++ more) (as ++ bs) := by
  induction h with
  | nil => exact h'
  | take h _ ih => exact .take h ih
  | skip h _ ih => exact .skip h ih

/-- No event failed the pass. -/
def Smooth (fails : Event asks → Option Error) (t : List (Event asks)) : Prop :=
  ∀ ev ∈ t, fails ev = none

/-- The last of some events failed a pass with an error, and none before it did. -/
def CutShort (fails : Event asks → Option Error) (t : List (Event asks)) (e : Error) : Prop :=
  ∃ before last, t = before ++ [last] ∧ Smooth fails before ∧ fails last = some e

theorem Smooth.nil {fails : Event asks → Option Error} : Smooth fails [] :=
  fun _ h => (List.not_mem_nil h).elim

theorem Smooth.cons {fails : Event asks → Option Error} {ev : Event asks} {t : List (Event asks)}
    (h : fails ev = none) (rest : Smooth fails t) : Smooth fails (ev :: t) :=
  List.forall_mem_cons.mpr ⟨h, rest⟩

theorem Smooth.append {fails : Event asks → Option Error} {t t' : List (Event asks)}
    (h : Smooth fails t) (h' : Smooth fails t') : Smooth fails (t ++ t') :=
  fun ev hev => (List.mem_append.mp hev).elim (h ev) (h' ev)

theorem CutShort.prepend {fails : Event asks → Option Error} {t t' : List (Event asks)} {e : Error}
    (h : Smooth fails t) (h' : CutShort fails t' e) : CutShort fails (t ++ t') e := by
  obtain ⟨before, last, rfl, smooth, failed⟩ := h'
  exact ⟨t ++ before, last, (List.append_assoc ..).symm, h.append smooth, failed⟩

/-- Whatever was asked along a course is admitted at one of its places. -/
theorem Begun.admitted {course : List Place} {as : List Ask} (h : Begun course as) :
    ∀ a ∈ as, ∃ place ∈ course, place.admits a := by
  induction h with
  | stop => exact fun _ h => (List.not_mem_nil h).elim
  | take h _ ih =>
    intro b hb
    rcases List.mem_cons.mp hb with rfl | hb
    · exact ⟨_, List.mem_cons_self, h⟩
    · obtain ⟨place, mem, admits⟩ := ih b hb
      exact ⟨place, List.mem_cons_of_mem _ mem, admits⟩
  | skip _ _ ih =>
    intro b hb
    obtain ⟨place, mem, admits⟩ := ih b hb
    exact ⟨place, List.mem_cons_of_mem _ mem, admits⟩

/-- When a pass of a course is cut short, the event that did so is the last one. -/
theorem CutShort.last {fails : Event asks → Option Error} {t before after : List (Event asks)}
    {ev : Event asks} {e e' : Error} (h : CutShort fails t e) (at_ : t = before ++ ev :: after)
    (failed : fails ev = some e') : after = [] ∧ e' = e := by
  obtain ⟨front, last, rfl, smooth, hlast⟩ := h
  rcases List.eq_nil_or_concat after with rfl | ⟨after, final, rfl⟩
  · obtain ⟨-, h⟩ := List.append_inj' at_ rfl
    obtain rfl : last = ev := by simpa using h
    exact ⟨rfl, Option.some.inj (failed.symm.trans hlast)⟩
  · rw [List.concat_eq_append, ← List.cons_append, ← List.append_assoc] at at_
    obtain ⟨rfl, -⟩ := List.append_inj' at_ rfl
    have := smooth ev (by simp)
    rw [failed] at this
    cases this

/-- A transcript follows a course to its result. `fails` tells which events fail a pass, and with
which error; `ok` is known of a transcript that ends with a value, and `err` of one that ends with
an error that no event raised. -/
inductive Follows (fails : Event asks → Option Error) (course : List Place)
    (ok : List (Event asks) → α → Prop) (err : List (Event asks) → Error → Prop)
    (t : List (Event asks)) : Except Error α → Prop where
  | ok {a : α} (finished : Finished course (t.map (·.op))) (smooth : Smooth fails t)
      (known : ok t a) : Follows fails course ok err t (.ok a)
  | error {e : Error} (begun : Begun course (t.map (·.op)))
      (stopped : CutShort fails t e ∨ Smooth fails t ∧ err t e) :
      Follows fails course ok err t (.error e)

/-- A pass goes along a course, whoever gives `honest` answers. -/
def Keeps (fails : Event asks → Option Error) (honest : Event asks → Prop) (course : List Place)
    (ok : List (Event asks) → α → Prop) (err : List (Event asks) → Error → Prop) (p : Pass α) :
    Prop :=
  ∀ t r, Takes p t r → (∀ ev ∈ t, honest ev) → Follows fails course ok err t r

theorem Follows.begun {fails : Event asks → Option Error} {course : List Place}
    {ok : List (Event asks) → α → Prop} {err : List (Event asks) → Error → Prop}
    {t : List (Event asks)} {r : Except Error α} (h : Follows fails course ok err t r) :
    Begun course (t.map (·.op)) := by
  cases h with
  | ok finished => exact finished.begun
  | error begun => exact begun

variable {fails : Event asks → Option Error} {honest : Event asks → Prop}
  {course : List Place}

theorem Keeps.pure {a : α} : Keeps fails honest [] (fun t b => t = [] ∧ b = a) (fun _ _ => False)
    (pure a : Pass α) := by
  intro t r h _
  obtain ⟨rfl, rfl⟩ := takes_pure_iff.mp h
  exact .ok .nil .nil ⟨rfl, rfl⟩

theorem Keeps.throw {e : Error} :
    Keeps fails honest [] (fun _ _ => False) (fun t e' => t = [] ∧ e' = e)
      (MonadExcept.throw e : Pass α) := by
  intro t r h _
  obtain ⟨rfl, rfl⟩ := takes_throw_iff.mp h
  exact .error (.stop []) (.inr ⟨.nil, rfl, rfl⟩)

theorem Keeps.ofExcept {ε : Type} {error : ε → Error} {x : Except ε α} :
    Keeps fails honest [] (fun t a => t = [] ∧ x = .ok a)
      (fun t e => t = [] ∧ ∃ e', x = .error e' ∧ e = error e') (ofExcept error x) := by
  intro t r h _
  obtain ⟨rfl, rfl⟩ := takes_ofExcept_iff.mp h
  cases x with
  | ok a => exact .ok .nil .nil ⟨rfl, rfl⟩
  | error e => exact .error (.stop []) (.inr ⟨.nil, rfl, e, rfl, rfl⟩)

/-- What is known of a transcript may use that it goes along the course. -/
theorem Keeps.along {ok : List (Event asks) → α → Prop} {err : List (Event asks) → Error → Prop}
    {p : Pass α} (h : Keeps fails honest course ok err p) :
    Keeps fails honest course (fun t a => Finished course (t.map (·.op)) ∧ ok t a) err p := by
  intro t r hp ht
  cases h t r hp ht with
  | ok finished smooth known => exact .ok finished smooth ⟨finished, known⟩
  | error begun stopped => exact .error begun stopped

theorem Keeps.weaken {ok ok' : List (Event asks) → α → Prop}
    {err err' : List (Event asks) → Error → Prop} {p : Pass α}
    (h : Keeps fails honest course ok err p) (hok : ∀ t a, ok t a → ok' t a)
    (herr : ∀ t e, Smooth fails t → err t e → err' t e) :
    Keeps fails honest course ok' err' p := by
  intro t r hp ht
  cases h t r hp ht with
  | ok finished smooth known => exact .ok finished smooth (hok t _ known)
  | error begun stopped =>
    exact .error begun (stopped.imp_right fun ⟨smooth, h⟩ => ⟨smooth, herr t _ smooth h⟩)

/-- One pass after another goes along the course of the first and then along that of the second. -/
theorem Keeps.bind (more : List Place) {ok₁ : List (Event asks) → α → Prop}
    {ok : List (Event asks) → β → Prop} {err₁ err : List (Event asks) → Error → Prop}
    {p : Pass α} {f : α → Pass β} (hp : Keeps fails honest course ok₁ err₁ p)
    (hf : ∀ t₁ a, Finished course (t₁.map (·.op)) → ok₁ t₁ a →
      Keeps fails honest more (fun t b => ok (t₁ ++ t) b) (fun t e => err (t₁ ++ t) e) (f a))
    (herr : ∀ t e, err₁ t e → err t e) :
    Keeps fails honest (course ++ more) ok err (p >>= f) := by
  intro t r h ht
  rcases takes_bind_iff.mp h with ⟨e, rfl, h₁⟩ | ⟨t₁, a, t₂, rfl, h₁, h₂⟩
  · obtain - | ⟨begun, stopped⟩ := hp t _ h₁ ht
    exact .error (begun.extend more) (stopped.imp_right fun ⟨smooth, h⟩ => ⟨smooth, herr t e h⟩)
  · obtain ⟨finished, smooth, hok⟩ := hp t₁ _ h₁ fun ev h => ht ev (List.mem_append_left _ h)
    cases hf t₁ a finished hok t₂ r h₂ fun ev h => ht ev (List.mem_append_right _ h) with
    | ok finished' smooth' known =>
      refine .ok ?_ (smooth.append smooth') known
      rw [List.map_append]
      exact finished.append finished'
    | error begun stopped =>
      refine .error ?_ (stopped.imp (CutShort.prepend smooth) fun ⟨smooth', h⟩ =>
        ⟨smooth.append smooth', h⟩)
      rw [List.map_append]
      exact finished.append_begun begun

/-- Where the pass goes on without a course of its own. -/
theorem Keeps.bind_nil {ok₁ : List (Event asks) → α → Prop} {ok : List (Event asks) → β → Prop}
    {err₁ err : List (Event asks) → Error → Prop} {p : Pass α} {f : α → Pass β}
    (hp : Keeps fails honest course ok₁ err₁ p)
    (hf : ∀ t₁ a, Finished course (t₁.map (·.op)) → ok₁ t₁ a →
      Keeps fails honest [] (fun t b => ok (t₁ ++ t) b) (fun t e => err (t₁ ++ t) e) (f a))
    (herr : ∀ t e, err₁ t e → err t e) : Keeps fails honest course ok err (p >>= f) := by
  have := hp.bind [] hf herr
  rwa [List.append_nil] at this

/-- Errors that are given a step: it is enough that on the course every event fails the pass with
the error that it fails the inner one with, given that step. -/
theorem Keeps.during {causes : Event asks → Option Error} {s : Step}
    {ok : List (Event asks) → α → Prop} {err : List (Event asks) → Error → Prop} {p : Pass α}
    (hp : Keeps causes honest course ok err p)
    (tagged : ∀ place ∈ course, ∀ ev : Event asks, place.admits ev.op →
      fails ev = (causes ev).map (.step s)) :
    Keeps fails honest course ok (fun t e => ∃ e', e = .step s e' ∧ err t e')
      (Pass.during s p) := by
  intro t r h ht
  obtain ⟨r, rfl, inner⟩ := takes_during_iff.mp h
  have kept := hp t r inner ht
  have fails_eq : Begun course (t.map (·.op)) →
      ∀ ev ∈ t, fails ev = (causes ev).map (.step s) := by
    intro begun ev hev
    obtain ⟨place, mem, admits⟩ := begun.admitted ev.op (List.mem_map_of_mem hev)
    exact tagged place mem ev admits
  cases kept with
  | ok finished smooth known =>
    refine .ok finished (fun ev hev => ?_) known
    rw [fails_eq finished.begun ev hev, smooth ev hev]
    rfl
  | error begun stopped =>
    rcases stopped with ⟨before, last, rfl, smooth, failed⟩ | ⟨smooth, herr⟩
    · refine .error begun (.inl ⟨before, last, rfl, fun ev hev => ?_, ?_⟩)
      · rw [fails_eq begun ev (List.mem_append_left _ hev), smooth ev hev]
        rfl
      · rw [fails_eq begun last (by simp), failed]
        rfl
    · refine .error begun (.inr ⟨fun ev hev => ?_, _, rfl, herr⟩)
      rw [fails_eq begun ev hev, smooth ev hev]
      rfl

end ReplicaPorts.Pass
