import Mathlib.Data.List.TakeWhile
import Mathlib.Data.Option.Basic
import ReplicaPorts.Http.Url
import ReplicaPorts.Proofs.Compute.Path

/-!
# Plain URLs

What stands behind an origin is read as a path, up to the character that ends it, and as a query
(`ofText?_behind`). Most URLs that a client sends are plain: an origin, a path of plain segments
(`IsPlain`), and a query in which nothing has to be escaped. Such a URL is read as it is written
(`ofText?_plain`): nothing is cleaned away, no segment is resolved and no character is escaped. A
text without a question mark never has a query (`query_eq_none`).
-/

set_option autoImplicit false

namespace ReplicaPorts

namespace Http.Url

/-! ## Plain paths -/

/-- Whether a text is one segment of a path, as it is: it is not empty, nothing in it has to be
escaped, and it does not stand for a place further up. -/
def isSegment (s : List Char) : Bool :=
  !s.isEmpty && s.all (fun c => inPath c && !isSlash c)
    && !oneDot.contains (s.map Char.toLower) && !twoDots.contains (s.map Char.toLower)

/-- A path of plain segments. -/
def IsPlain (path : List Char) : Prop := ∀ part ∈ Text.segments '/' path, isSegment part = true

variable {path path' s : List Char}

theorem isPlain_append : IsPlain (path ++ '/' :: path') ↔ IsPlain path ∧ IsPlain path' := by
  simp only [IsPlain, Text.segments_append, List.forall_mem_append]

theorem not_isSlash_of_isSegment (h : isSegment s = true) {c : Char} (mem : c ∈ s) :
    inPath c = true ∧ isSlash c = false := by
  simp only [isSegment, Bool.and_eq_true, List.all_eq_true, Bool.not_eq_true'] at h
  exact h.1.1.2 c mem

/-- One plain segment is a plain path. -/
theorem isPlain_of_isSegment (h : isSegment s = true) : IsPlain s := by
  have slashless : '/' ∉ s := by
    intro mem
    cases (not_isSlash_of_isSegment h mem).2
  rw [IsPlain, Text.segments_of_not_mem slashless]
  simpa using h

/-- What a plain path is written with. -/
theorem IsPlain.forall_mem (h : IsPlain path) : ∀ c ∈ path, inPath c = true ∧ c ≠ '\\' := by
  have separates : inPath '/' = true ∧ '/' ≠ '\\' := by decide
  refine Text.forall_mem_of_segments separates fun part here c mem => ?_
  obtain ⟨inPath, slashless⟩ := not_isSlash_of_isSegment (h part here) mem
  refine ⟨inPath, ?_⟩
  rintro rfl
  cases slashless

/-- Whether a segment stands for the place where it is, or for one further up. -/
def isDots (s : List Char) : Bool :=
  oneDot.contains (s.map Char.toLower) || twoDots.contains (s.map Char.toLower)

theorem isDots_of_isSegment (h : isSegment s = true) : isDots s = false := by
  simp only [isSegment, Bool.and_eq_true, Bool.not_eq_true'] at h
  rw [isDots, h.1.2, h.2, Bool.or_false]

/-- A long text stands for itself. -/
theorem isDots_of_length (h : 6 < s.length) : isDots s = false := by
  have short : ∀ dots ∈ oneDot ++ twoDots, dots.length ≤ 6 := by decide
  have other : s.map Char.toLower ∉ oneDot ++ twoDots := fun mem =>
    absurd (short _ mem) (by simpa using h)
  simpa [isDots] using other

/-- Segments without dots are resolved to themselves. -/
theorem resolve_of_not_isDots (done parts : List (List Char))
    (h : ∀ part ∈ parts, isDots part = false) : resolve done parts = done.reverse ++ parts := by
  induction parts generalizing done with
  | nil => simp [resolve]
  | cons part parts ih =>
    obtain ⟨here, later⟩ := List.forall_mem_cons.mp h
    obtain ⟨one, two⟩ := Bool.or_eq_false_iff.mp here
    simp only [resolve, one, two, Bool.false_eq_true, if_false, ih (part :: done) later,
      List.reverse_cons, List.append_assoc, List.singleton_append]

/-- Where nothing has to be escaped, nothing is. -/
theorem encodeWith_of_keep {keep : Char → Bool} {s : String} (h : ∀ c ∈ s.toList, keep c = true) :
    Text.Percent.encodeWith keep s = s := by
  rw [Text.Percent.encodeWith]
  have kept : s.toList.flatMap (fun c =>
      if keep c then [c] else (String.singleton c).toUTF8.toList.flatMap Text.Percent.escape) =
      s.toList.flatMap fun c => [c] :=
    List.flatMap_congr fun c mem => if_pos (h c mem)
  rw [kept, List.flatMap_singleton', String.ofList_toList]

theorem segmentText_plain (h : isSegment s = true) : segmentText s = String.ofList s := by
  refine encodeWith_of_keep fun c mem => (not_isSlash_of_isSegment h ?_).1
  rwa [String.toList_ofList] at mem

/-- The text of a path, each segment as it is written in a URL. -/
def pathText (path : List Char) : String :=
  "/".intercalate ((Text.segments '/' path).map segmentText)

theorem pathText_append (path path' : List Char) :
    pathText (path ++ '/' :: path') = pathText path ++ "/" ++ pathText path' := by
  have filled (cs : List Char) : (Text.segments '/' cs).map segmentText ≠ [] :=
    List.map_eq_nil_iff.not.mpr (Text.segments_ne_nil cs)
  rw [pathText, Text.segments_append, List.map_append,
    String.intercalate_append_of_ne_nil (filled path) (filled path')]
  rfl

theorem pathText_of_not_mem (h : '/' ∉ s) : pathText s = segmentText s := by
  rw [pathText, Text.segments_of_not_mem h, List.map_singleton, String.intercalate_singleton]

theorem pathText_plain (h : IsPlain path) : pathText path = String.ofList path := by
  have texts : (Text.segments '/' path).map segmentText =
      (Text.segments '/' path).map String.ofList :=
    List.map_congr_left fun part mem => segmentText_plain (h part mem)
  have back : String.toList ∘ String.ofList = id := funext fun cs => String.toList_ofList
  rw [pathText, texts, ← String.toList_inj, String.toList_intercalate, List.map_map, back,
    List.map_id]
  exact (Text.segments_intercalate '/' path).trans String.toList_ofList.symm

/-- A path in which nothing is turned round or resolved denotes its text. -/
theorem pathOf_eq (forward : '\\' ∉ path)
    (stays : ∀ part ∈ Text.segments '/' path, isDots part = false) :
    pathOf ('/' :: path) = "/" ++ pathText path := by
  have same : path.map (fun c => if c = '\\' then '/' else c) = path := by
    refine (List.map_congr_left fun c mem => if_neg ?_).trans (List.map_id' path)
    exact fun back => forward (back ▸ mem)
  simp only [pathOf, List.head?_cons, Option.any_some, show isSlash '/' = true from rfl, if_true,
    List.tail_cons, same, resolve_of_not_isDots [] _ stays, List.reverse_nil, List.nil_append]
  rfl

/-- A plain path denotes itself. -/
theorem pathOf_plain (h : IsPlain path) : pathOf ('/' :: path) = "/" ++ String.ofList path := by
  rw [pathOf_eq (fun mem => (h.forall_mem _ mem).2 rfl)
    (fun part mem => isDots_of_isSegment (h part mem)), pathText_plain h]

/-! ## Plain origins -/

/-- A scheme and a host, written as they are read. -/
structure IsOrigin (o : String) : Prop where
  read : origin? o.toList = some (o, [])
  visible : ∀ c ∈ o.toList, isVisible c = true

/-- What the origin of a text is and what follows it. -/
theorem origin?_eq_some_iff {cs rest : List Char} {o : String} :
    origin? cs = some (o, rest) ↔ ∃ scheme after, Text.cut? ':' cs = some (scheme, after) ∧
      schemes.contains (scheme.map Char.toLower) = true ∧
      Host.isWithPort (Text.afterLast '@'
        ((after.dropWhile isSlash).takeWhile (!endsHost ·))) = true ∧
      String.ofList (scheme.map Char.toLower ++ "://".toList ++
        ((after.dropWhile isSlash).takeWhile (!endsHost ·)).map Char.toLower) = o ∧
      (after.dropWhile isSlash).dropWhile (!endsHost ·) = rest := by
  simp only [origin?, Option.bind_eq_bind, Option.bind_eq_some_iff, Prod.exists,
    Option.guard_eq_some', exists_and_left, exists_const, Option.pure_def, Option.some.injEq,
    Prod.mk.injEq]

/-- What an origin ends with may be followed by a path. -/
theorem IsOrigin.origin?_append {o : String} (h : IsOrigin o) (path : List Char) :
    origin? (o.toList ++ '/' :: path) = some (o, '/' :: path) := by
  obtain ⟨scheme, after, cut, schemed, hosted, same, ends⟩ := origin?_eq_some_iff.mp h.read
  have whole : ∀ c ∈ after.dropWhile isSlash, (!endsHost c) = true :=
    List.dropWhile_eq_nil_iff.mp ends
  have filled : (after.dropWhile isSlash).isEmpty ≠ true := by
    intro empty
    rw [List.isEmpty_iff.mp empty] at hosted
    revert hosted
    decide
  have slashes : (after ++ '/' :: path).dropWhile isSlash =
      after.dropWhile isSlash ++ '/' :: path := by
    rw [List.dropWhile_append, if_neg filled]
  have host : (after.dropWhile isSlash ++ '/' :: path).takeWhile (!endsHost ·) =
      (after.dropWhile isSlash).takeWhile (!endsHost ·) := by
    rw [List.takeWhile_append_of_pos whole, List.takeWhile_eq_self_iff.mpr whole]
    exact List.append_nil _
  have rest : (after.dropWhile isSlash ++ '/' :: path).dropWhile (!endsHost ·) = '/' :: path :=
    List.dropWhile_append_of_pos whole
  refine origin?_eq_some_iff.mpr ⟨scheme, after ++ '/' :: path, Text.cut?_append cut _, schemed, ?_⟩
  rw [slashes, host, rest]
  exact ⟨hosted, same, rfl⟩

/-! ## Plain URLs -/

theorem isVisible_of_inPath {c : Char} (h : inPath c = true) :
    isVisible c = true ∧ endsPath c = false := by
  simp only [inPath, Bool.and_eq_true, Bool.not_eq_true'] at h
  refine ⟨h.1.1, ?_⟩
  have escaped := h.2
  simp only [escapedInPath, List.contains_cons, Bool.or_eq_false_iff] at escaped
  simp only [endsPath, Bool.or_eq_false_iff]
  exact ⟨escaped.2.2.2.2.1, escaped.2.1⟩

theorem isVisible_of_inQuery {c : Char} (h : inQuery c = true) :
    isVisible c = true ∧ c ≠ '#' := by
  simp only [inQuery, Bool.and_eq_true, Bool.not_eq_true'] at h
  refine ⟨h.1.1, ?_⟩
  rintro rfl
  cases h.2

/-- What counts of the text of a path and a query. -/
def counted (cs : List Char) : List Char := cs.filter (!isIgnored ·)

/-- What counts of the text of a path, before the query. -/
def inFront (cs : List Char) : List Char := (counted cs).takeWhile (!endsPath ·)

theorem inner_of_isVisible {c : Char} (h : isVisible c = true) :
    isOuter c = false ∧ isIgnored c = false := by
  simp only [isVisible, Bool.and_eq_true, decide_eq_true_eq] at h
  refine ⟨by simpa [isOuter] using h.1, ?_⟩
  simp only [isIgnored, Bool.or_eq_false_iff, beq_eq_false_iff_ne]
  refine ⟨⟨?_, ?_⟩, ?_⟩ <;> rintro rfl <;> exact absurd h.1 (by decide)

theorem counted_of_forall {cs : List Char} (h : ∀ c ∈ cs, isIgnored c = false) :
    counted cs = cs :=
  List.filter_eq_self.mpr fun c mem => by rw [h c mem, Bool.not_false]

/-- Text that does not end a path stays in front. -/
theorem inFront_append {front : List Char}
    (whole : ∀ c ∈ front, isIgnored c = false ∧ endsPath c = false) (tail : List Char) :
    inFront (front ++ tail) = front ++ inFront tail := by
  rw [inFront, counted, List.filter_append]
  have same : front.filter (!isIgnored ·) = front :=
    counted_of_forall fun c mem => (whole c mem).1
  rw [same, List.takeWhile_append_of_pos fun c mem => by rw [(whole c mem).2, Bool.not_false]]
  rfl

/-- From the first visible character on nothing is cleaned away at the start. -/
theorem dropWhile_isOuter {cs : List Char} (h : ∀ c ∈ cs.head?, isVisible c = true) :
    cs.dropWhile isOuter = cs := by
  cases cs with
  | nil => rfl
  | cons c cs =>
    exact List.dropWhile_cons_of_neg (by simp [(inner_of_isVisible (h c rfl)).1])

/-- A text with a visible end still has one behind a visible character. -/
theorem isVisible_last {before after : List Char} {c : Char} (here : isVisible c = true)
    (last : ∀ d ∈ after.getLast?, isVisible d = true) :
    ∀ d ∈ (before ++ c :: after).getLast?, isVisible d = true := by
  rw [List.getLast?_append_cons, List.getLast?_cons]
  rintro d ⟨⟩
  cases there : after.getLast? with
  | none => exact here
  | some e => exact last e there

/-- Behind an origin a path and a query are read. -/
theorem ofText?_behind {o : String} (origin : IsOrigin o) {s : String} {rest : List Char}
    (written : s.toList = o.toList ++ '/' :: rest)
    (last : ∀ c ∈ rest.getLast?, isVisible c = true) :
    ofText? s = some {
      origin := o
      path := pathOf ('/' :: inFront rest)
      query := (queryOf ((counted rest).dropWhile (!endsPath ·))).map fun q =>
        Text.Percent.encodeWith inQuery (String.ofList q) } := by
  have starts : ∀ c ∈ s.toList.head?, isVisible c = true := by
    rw [written]
    cases chars : o.toList with
    | nil =>
      rintro d ⟨⟩
      decide
    | cons c cs =>
      rintro d ⟨⟩
      exact origin.visible c (chars ▸ List.mem_cons_self)
  have ends : ∀ c ∈ s.toList.reverse.head?, isVisible c = true := by
    rw [written, List.head?_reverse]
    exact isVisible_last (by decide) last
  have cleaned_ : cleaned s = o.toList ++ '/' :: counted rest := by
    rw [cleaned, dropWhile_isOuter starts, dropWhile_isOuter ends, List.reverse_reverse, written,
      List.filter_append]
    exact congrArg (· ++ '/' :: counted rest)
      (counted_of_forall fun c mem => (inner_of_isVisible (origin.visible c mem)).2)
  rw [ofText?, cleaned_, origin.origin?_append]
  rfl

/-- Text that does not end a path is read as one, and what follows it as the query. -/
theorem ofText?_front {o front : String} (origin : IsOrigin o)
    (whole : ∀ c ∈ front.toList, isIgnored c = false ∧ endsPath c = false)
    (last : ∀ c ∈ front.toList.getLast?, isVisible c = true)
    {query : Option String} (asked : ∀ q ∈ query, ∀ c ∈ q.toList, inQuery c = true) :
    ofText? (o ++ "/" ++ front ++ query.elim "" ("?" ++ ·)) =
      some ⟨o, pathOf ('/' :: front.toList), query⟩ := by
  have within : ∀ c ∈ front.toList, (!endsPath c) = true := fun c mem => by
    rw [(whole c mem).2, Bool.not_false]
  cases query with
  | none =>
    have written : (o ++ "/" ++ front ++ "").toList = o.toList ++ '/' :: front.toList := by simp
    have read : inFront front.toList = front.toList := by
      simpa [inFront, counted] using inFront_append whole []
    rw [Option.elim_none, ofText?_behind origin written last, read,
      counted_of_forall fun c mem => (whole c mem).1, List.dropWhile_eq_nil_iff.mpr within]
    rfl
  | some q =>
    have written : (o ++ "/" ++ front ++ ("?" ++ q)).toList =
        o.toList ++ '/' :: (front.toList ++ '?' :: q.toList) := by simp
    have visible : ∀ c ∈ '?' :: q.toList, isVisible c = true :=
      List.forall_mem_cons.mpr
        ⟨by decide, fun c mem => (isVisible_of_inQuery (asked q rfl c mem)).1⟩
    have counts : counted (front.toList ++ '?' :: q.toList) = front.toList ++ '?' :: q.toList :=
      counted_of_forall (List.forall_mem_append.mpr ⟨fun c mem => (whole c mem).1,
        fun c mem => (inner_of_isVisible (visible c mem)).2⟩)
    have read : inFront (front.toList ++ '?' :: q.toList) = front.toList := by
      rw [inFront, counts, List.takeWhile_append_of_pos within]
      exact List.append_nil _
    have uncut : q.toList.takeWhile (· ≠ '#') = q.toList :=
      List.takeWhile_eq_self_iff.mpr fun c mem => by
        simpa using (isVisible_of_inQuery (asked q rfl c mem)).2
    have last : ∀ c ∈ (front.toList ++ '?' :: q.toList).getLast?, isVisible c = true :=
      isVisible_last (by decide) fun c mem =>
        visible c (List.mem_cons_of_mem _ (List.mem_of_getLast? mem))
    rw [Option.elim_some, ofText?_behind origin written last, read, counts,
      List.dropWhile_append_of_pos within]
    simp only [List.dropWhile_cons, show endsPath '?' = true from rfl, Bool.not_true,
      Bool.false_eq_true, if_false, queryOf, uncut, String.ofList_toList, Option.map_some,
      encodeWith_of_keep (asked q rfl)]

/-- An origin, a plain path and a query in which nothing has to be escaped are read as they are
written. -/
theorem ofText?_plain {o path : String} (origin : IsOrigin o) (plain : IsPlain path.toList)
    {query : Option String} (asked : ∀ q ∈ query, ∀ c ∈ q.toList, inQuery c = true) :
    ofText? (o ++ "/" ++ path ++ query.elim "" ("?" ++ ·)) = some ⟨o, "/" ++ path, query⟩ := by
  have inner : ∀ c ∈ path.toList, isVisible c = true ∧ endsPath c = false := fun c mem =>
    isVisible_of_inPath (plain.forall_mem c mem).1
  rw [ofText?_front origin (fun c mem => ⟨(inner_of_isVisible (inner c mem).1).2, (inner c mem).2⟩)
    (fun c mem => (inner c (List.mem_of_getLast? mem)).1) asked, pathOf_plain plain,
    String.ofList_toList]

/-- A text without a question mark has no query. -/
theorem query_eq_none {s : String} {url : Url} (h : ofText? s = some url)
    (plain : '?' ∉ s.toList) : url.query = none := by
  simp only [ofText?, Option.bind_eq_bind, Option.bind_eq_some_iff, Prod.exists, Option.pure_def,
    Option.some.injEq] at h
  obtain ⟨o, rest, read, rfl⟩ := h
  obtain ⟨scheme, after, cut, -, -, -, ends⟩ := origin?_eq_some_iff.mp read
  have source : ∀ c ∈ rest, c ∈ s.toList := by
    intro c mem
    rw [← ends] at mem
    have within : c ∈ cleaned s := (Text.suffix_of_cut? cut).subset
      ((List.dropWhile_suffix _).subset ((List.dropWhile_suffix _).subset mem))
    have inner := List.mem_reverse.mp ((List.dropWhile_suffix _).subset
      (List.mem_reverse.mp (List.mem_filter.mp within).1))
    exact (List.dropWhile_suffix _).subset inner
  have nothing : queryOf (rest.dropWhile (!endsPath ·)) = none := by
    cases left : rest.dropWhile (!endsPath ·) with
    | nil => rfl
    | cons c cs =>
      have mem : c ∈ rest := (List.dropWhile_sublist _).subset (left ▸ List.mem_cons_self)
      have other : c ≠ '?' := fun same => plain (same ▸ source c mem)
      unfold queryOf
      split
      · next same => exact absurd (List.cons.inj same).1 other
      · rfl
  rw [nothing]
  rfl

end Http.Url

end ReplicaPorts
