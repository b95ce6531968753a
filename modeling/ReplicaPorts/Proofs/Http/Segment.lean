import Mathlib.Data.List.Flatten
import ReplicaPorts.Proofs.Http.Url
import ReplicaPorts.Proofs.Text.Percent

/-!
# Names in paths

A name that is put into the path of a URL as it is should be one segment of the path, and what the
segment denotes should be the name (`Spells`). `spells_iff` says which names are: those in which no
character breaks the path up and nothing reads as an escape (`IsAddressable`).

Any other name is lost. The octets that the segments of a path denote (`spelled`) only get fewer by
what happens to the path: what breaks it up does not count as part of it, segments that are resolved
are gone, and an escape is one octet. So such a path denotes too little.
-/

set_option autoImplicit false

namespace ReplicaPorts.Http.Url

open Text (segments)
open Text.Percent (octets bytes encode hasEscape)

/-! ## Names that can be put into paths -/

/-- Whether a character breaks the path up that it is put into. -/
def breaks (c : Char) : Bool := isSlash c || endsPath c || isIgnored c

/-- A text that is one segment of the path that it is put into, and denotes itself there. -/
structure IsAddressable (cs : List Char) : Prop where
  whole : ∀ c ∈ cs, breaks c = false
  literal : hasEscape cs = false

theorem IsAddressable.of_all {cs : List Char} (whole : cs.all (!breaks ·) = true)
    (literal : hasEscape cs = false) : IsAddressable cs :=
  ⟨fun c mem => by simpa using List.all_eq_true.mp whole c mem, literal⟩

/-- A text is one segment of a path, and it denotes a name. -/
structure Spells (segment name : String) : Prop where
  single : '/' ∉ segment.toList
  octets : Text.Percent.octets segment.toList = name.toUTF8.toList

/-- A name that ends visibly and does not stand for another place. -/
structure IsName (cs : List Char) : Prop where
  stays : isDots cs = false
  last : ∀ c ∈ cs.getLast?, isVisible c = true

/-- The path of a name in a collection, and of what can be done with it. -/
def pathTo (collection name : String) (verb : Option String) : String :=
  collection ++ "/" ++ name ++ verb.elim "" ("/" ++ ·)

variable {o collection name segment : String} {verb query : Option String}
  {cs front tail : List Char}

theorem toList_pathTo (collection name : String) (verb : Option String) :
    (pathTo collection name verb).toList =
      collection.toList ++ '/' :: (name.toList ++ verb.elim [] ('/' :: ·.toList)) := by
  cases verb <;> simp [pathTo]

/-- Nothing breaks a plain path up. -/
theorem IsPlain.unbroken {path : List Char} (h : IsPlain path) :
    ∀ c ∈ path, c = '/' ∨ breaks c = false := by
  refine Text.forall_mem_of_segments (.inl rfl) fun part here c mem => .inr ?_
  obtain ⟨inPath, slashless⟩ := not_isSlash_of_isSegment (h part here) mem
  obtain ⟨visible, within⟩ := isVisible_of_inPath inPath
  rw [breaks, slashless, within, (inner_of_isVisible visible).2]
  rfl

theorem inner_of_unbroken {c : Char} (h : c = '/' ∨ breaks c = false) :
    isIgnored c = false ∧ endsPath c = false := by
  obtain rfl | h := h
  · decide
  · simp only [breaks, Bool.or_eq_false_iff] at h
    exact ⟨h.2, h.1.2⟩

/-- Where names are single segments, a path tells its name, whatever is to be done there. -/
theorem segment_of_pathTo {segment' : String} {verb' : Option String}
    (single : '/' ∉ segment.toList) (single' : '/' ∉ segment'.toList)
    (h : pathTo collection segment verb = pathTo collection segment' verb') :
    segment = segment' := by
  have first {segment : String} (single : '/' ∉ segment.toList) (verb : Option String) :
      (segment.toList ++ verb.elim [] ('/' :: ·.toList)).takeWhile (· ≠ '/') = segment.toList := by
    have free : ∀ c ∈ segment.toList, decide (c ≠ '/') = true := by
      rintro c mem
      refine decide_eq_true ?_
      rintro rfl
      exact single mem
    rw [List.takeWhile_append_of_pos free]
    cases verb <;> simp
  have chars := congrArg String.toList h
  rw [toList_pathTo, toList_pathTo] at chars
  have tails := (List.cons.inj (List.append_cancel_left chars)).2
  rw [← String.toList_inj, ← first single verb, tails, first single']

/-- A segment spells one name. -/
theorem Spells.unique {name' : String} (h : Spells segment name) (h' : Spells segment name') :
    name = name' := by
  have octets := h.octets.symm.trans h'.octets
  rw [Text.Percent.toList_eq, Text.Percent.toList_eq] at octets
  exact String.toByteArray_inj.mp (ByteArray.ext (Array.toList_inj.mp octets))

/-! ## What is written for a name -/

theorem segmentText_eq (cs : List Char) : segmentText cs = String.ofList (encode inPath cs) := by
  rw [segmentText, Text.Percent.encodeWith_eq, String.toList_ofList]

theorem keepsEscapes_inPath : Text.Percent.KeepsEscapes inPath where
  mark := by decide
  digits c hex := by
    have small : c.toNat < 103 := by
      simp only [Text.Percent.isHex, Text.hexDigit?] at hex
      split at hex
      · next h => exact Nat.lt_of_le_of_lt h.2 (by decide)
      · split at hex
        · next h => exact Nat.lt_of_le_of_lt h.2 (by decide)
        · split at hex
          · next h => exact Nat.lt_of_le_of_lt h.2 (by decide)
          · cases hex
    have all : ∀ n < 103, Text.Percent.isHex (Char.ofNat n) = true →
        inPath (Char.ofNat n) = true := by decide
    rw [← Char.ofNat_toNat c] at hex ⊢
    exact all c.toNat small hex

theorem encode_plain (h : isSegment cs = true) : encode inPath cs = cs :=
  String.ofList_injective ((segmentText_eq cs).symm.trans (segmentText_plain h))

/-- What is written for a text without a slash holds none. -/
theorem slash_not_mem_encode (h : '/' ∉ cs) : '/' ∉ encode inPath cs := by
  have digits : ∀ n < 16, Text.Percent.hexDigit n ≠ '/' := by decide
  rw [encode, List.mem_flatMap]
  rintro ⟨c, mem, written⟩
  split at written
  · obtain rfl := List.mem_singleton.mp written
    exact h mem
  · obtain ⟨b, -, escaped⟩ := List.mem_flatMap.mp written
    have size := b.toNat_lt
    simp only [Text.Percent.escape, List.mem_cons, List.not_mem_nil, or_false] at escaped
    obtain mark | high | low := escaped
    · cases mark
    · exact digits _ (by omega) high.symm
    · exact digits _ (by omega) low.symm

/-- What is written for a name that breaks nothing up is one segment. -/
theorem single_segmentText (whole : ∀ c ∈ cs, breaks c = false) :
    '/' ∉ (segmentText cs).toList := by
  rw [segmentText_eq, String.toList_ofList]
  exact slash_not_mem_encode fun mem => absurd (whole _ mem) (by decide)

/-- What is written for an addressable name spells it. -/
theorem IsAddressable.spells (h : IsAddressable name.toList) :
    Spells (segmentText name.toList) name where
  single := single_segmentText h.whole
  octets := by
    rw [segmentText_eq, String.toList_ofList,
      Text.Percent.octets_encode keepsEscapes_inPath h.literal, Text.Percent.bytes_toList]

theorem last_pathTo (named : IsName name.toList) (verbs : ∀ v ∈ verb, isSegment v.toList = true) :
    ∀ c ∈ (pathTo collection name verb).toList.getLast?, isVisible c = true := by
  rw [toList_pathTo]
  refine isVisible_last (by decide) ?_
  cases verb with
  | none => simpa using named.last
  | some v =>
    refine isVisible_last (by decide) fun c mem => ?_
    have inside := List.mem_of_getLast? mem
    exact (isVisible_of_inPath (not_isSlash_of_isSegment (verbs v rfl) inside).1).1

section Whole

variable (plain : IsPlain collection.toList) (whole : ∀ c ∈ name.toList, breaks c = false)
  (verbs : ∀ v ∈ verb, isSegment v.toList = true)

include plain whole verbs

/-- A path to a name that breaks nothing up holds nothing that does. -/
theorem unbroken_pathTo :
    ∀ c ∈ (pathTo collection name verb).toList, c = '/' ∨ breaks c = false := by
  rw [toList_pathTo]
  refine List.forall_mem_append.mpr ⟨plain.unbroken, List.forall_mem_cons.mpr ⟨.inl rfl,
    List.forall_mem_append.mpr ⟨fun c mem => .inr (whole c mem), ?_⟩⟩⟩
  cases verb with
  | none => exact List.forall_mem_nil _
  | some v =>
    exact List.forall_mem_cons.mpr ⟨.inl rfl, (isPlain_of_isSegment (verbs v rfl)).unbroken⟩

/-- The segments of such a path are those of the collection, the name and the verb. -/
theorem not_isDots_pathTo (named : IsName name.toList) :
    ∀ part ∈ segments '/' (pathTo collection name verb).toList, isDots part = false := by
  have slashless : '/' ∉ name.toList := fun mem => absurd (whole _ mem) (by decide)
  rw [toList_pathTo, Text.segments_append, List.forall_mem_append]
  refine ⟨fun part mem => isDots_of_isSegment (plain part mem), ?_⟩
  cases verb with
  | none => simpa [Text.segments_of_not_mem slashless] using named.stays
  | some v =>
    rw [Option.elim_some, Text.segments_append, Text.segments_of_not_mem slashless,
      List.forall_mem_append, List.forall_mem_singleton]
    exact ⟨named.stays, fun part mem =>
      isDots_of_isSegment (isPlain_of_isSegment (verbs v rfl) part mem)⟩

/-- In the text of such a path only the name may have to be escaped. -/
theorem pathText_pathTo : pathText (pathTo collection name verb).toList =
    pathTo collection (segmentText name.toList) verb := by
  have slashless : '/' ∉ name.toList := fun mem => absurd (whole _ mem) (by decide)
  rw [toList_pathTo, pathText_append, pathText_plain plain, String.ofList_toList, pathTo]
  cases verb with
  | none =>
    rw [Option.elim_none, List.append_nil, pathText_of_not_mem slashless, Option.elim_none,
      String.append_empty]
  | some v =>
    rw [Option.elim_some, pathText_append, pathText_of_not_mem slashless,
      pathText_plain (isPlain_of_isSegment (verbs v rfl)), String.ofList_toList,
      Option.elim_some]
    simp only [String.append_assoc]

/-- Where nothing breaks the path up, a name is written as a segment of it. -/
theorem ofText?_pathTo (origin : IsOrigin o) (named : IsName name.toList)
    (asked : ∀ q ∈ query, ∀ c ∈ q.toList, inQuery c = true) :
    ofText? (o ++ "/" ++ pathTo collection name verb ++ query.elim "" ("?" ++ ·)) =
      some ⟨o, "/" ++ pathTo collection (segmentText name.toList) verb, query⟩ := by
  have unbroken := unbroken_pathTo plain whole verbs
  have forward : '\\' ∉ (pathTo collection name verb).toList := fun mem =>
    absurd (unbroken _ mem) (by decide)
  rw [ofText?_front origin (fun c mem => inner_of_unbroken (unbroken c mem))
    (last_pathTo named verbs) asked, pathOf_eq forward (not_isDots_pathTo plain whole verbs named),
    pathText_pathTo plain whole verbs]

end Whole

/-! ## What a path denotes -/

/-- The octets that the segments of a path denote. -/
def spelled (cs : List Char) : List UInt8 := (segments '/' cs).flatMap octets

theorem spelled_append (cs cs' : List Char) :
    spelled (cs ++ '/' :: cs') = spelled cs ++ spelled cs' := by
  rw [spelled, Text.segments_append, List.flatMap_append]
  rfl

theorem spelled_of_not_mem (h : '/' ∉ cs) : spelled cs = octets cs := by
  rw [spelled, Text.segments_of_not_mem h, List.flatMap_singleton]

/-- Segments with slashes between them denote what each of them does. -/
theorem spelled_intercalate (parts : List (List Char)) (h : ∀ part ∈ parts, '/' ∉ part) :
    spelled (['/'].intercalate parts) = parts.flatMap octets := by
  induction parts with
  | nil => rfl
  | cons part parts ih =>
    obtain ⟨here, later⟩ := List.forall_mem_cons.mp h
    cases parts with
    | nil => simp [spelled_of_not_mem here]
    | cons next parts =>
      rw [List.intercalate_cons_cons, List.append_assoc, List.singleton_append, spelled_append,
        spelled_of_not_mem here, ih later]
      rfl

/-- Resolving only leaves segments out, and may put an empty one at the end. -/
theorem resolve_sublist (done parts : List (List Char)) :
    ∃ rest, rest.Sublist (done.reverse ++ parts) ∧
      (resolve done parts = rest ∨ resolve done parts = rest ++ [[]]) := by
  have lower (done : List (List Char)) : (parent done).Sublist done := by
    unfold parent
    split
    · exact .refl done
    · exact List.tail_sublist done
  induction parts generalizing done with
  | nil => exact ⟨done.reverse, by simp, .inl rfl⟩
  | cons part parts ih =>
    have past {done' : List (List Char)} (fewer : done'.Sublist done) :
        (done'.reverse ++ parts).Sublist (done.reverse ++ part :: parts) :=
      fewer.reverse.append (List.sublist_cons_self part parts)
    have ends {done' : List (List Char)} (fewer : done'.Sublist done) :
        done'.reverse.Sublist (done.reverse ++ part :: parts) :=
      (List.sublist_append_left _ _).trans (past fewer)
    unfold resolve
    split
    · split
      · exact ⟨_, ends (lower done), .inr List.reverse_cons⟩
      · obtain ⟨rest, fewer, left⟩ := ih (parent done)
        exact ⟨rest, fewer.trans (past (lower done)), left⟩
    · split
      · split
        · exact ⟨_, ends (.refl done), .inr List.reverse_cons⟩
        · obtain ⟨rest, fewer, left⟩ := ih done
          exact ⟨rest, fewer.trans (past (.refl done)), left⟩
      · obtain ⟨rest, fewer, left⟩ := ih (part :: done)
        exact ⟨rest, by simpa using fewer, left⟩

/-- What holds of all segments and of an empty one holds of the resolved ones. -/
theorem forall_mem_resolve {p : List Char → Prop} (empty : p []) {parts : List (List Char)}
    (h : ∀ part ∈ parts, p part) : ∀ part ∈ resolve [] parts, p part := by
  obtain ⟨rest, fewer, left⟩ := resolve_sublist [] parts
  have among : ∀ part ∈ rest, p part := fun part mem => h part (fewer.subset mem)
  obtain same | same := left
  · rwa [same]
  · rw [same]
    exact List.forall_mem_append.mpr ⟨among, List.forall_mem_singleton.mpr empty⟩

/-- Where an empty segment denotes nothing, resolving adds nothing to what is denoted. -/
theorem flatMap_resolve {f : List Char → List UInt8} (empty : f [] = [])
    (parts : List (List Char)) :
    ((resolve [] parts).flatMap f).Sublist (parts.flatMap f) := by
  obtain ⟨rest, fewer, left⟩ := resolve_sublist [] parts
  have most := fewer.flatMap f
  obtain same | same := left
  · rwa [same]
  · rwa [same, List.flatMap_append, List.flatMap_singleton, empty, List.append_nil]

/-- The segments of a text hold all of it but the separators. -/
theorem flatten_segments (sep : Char) (cs : List Char) :
    (segments sep cs).flatten = cs.filter (· ≠ sep) := by
  induction cs with
  | nil => rfl
  | cons c cs ih =>
    by_cases same : c = sep
    · simpa [segments, same] using ih
    · cases parts : segments sep cs with
      | nil => exact absurd parts (Text.segments_ne_nil cs)
      | cons part parts' =>
        rw [parts] at ih
        simpa [segments, same, parts] using ih

/-- The octets that a segment denotes as it is written. -/
def denoted (part : List Char) : List UInt8 := octets (encode inPath part)

/-- Segments as they are written denote no more octets than they have. -/
theorem length_flatMap_denoted (parts : List (List Char)) :
    (parts.flatMap denoted).length ≤ (bytes parts.flatten).length := by
  induction parts with
  | nil => exact Nat.le_refl 0
  | cons part parts ih =>
    have here : (denoted part).length ≤ (bytes part).length :=
      Nat.le_of_add_right_le (Text.Percent.length_octets_encode keepsEscapes_inPath part)
    rw [List.flatMap_cons, List.length_append, List.flatten_cons, Text.Percent.bytes_append,
      List.length_append]
    exact Nat.add_le_add here ih

/-- What does not count as a slash in a path. -/
def unslashed (cs : List Char) : List Char := cs.filter (!isSlash ·)

/-- Every slash as it counts in a path. -/
def forward (c : Char) : Char := if c = '\\' then '/' else c

theorem filter_forward (cs : List Char) :
    (cs.map forward).filter (· ≠ '/') = unslashed cs := by
  induction cs with
  | nil => rfl
  | cons c cs ih =>
    rw [List.map_cons, List.filter_cons, unslashed, List.filter_cons, ih]
    by_cases back : c = '\\'
    · subst back
      rfl
    · by_cases slash : c = '/'
      · subst slash
        rfl
      · simp [forward, isSlash, back, slash, unslashed]

/-- What a path denotes is what its resolved segments denote. -/
theorem spelled_pathOf (cs : List Char) :
    spelled (pathOf ('/' :: cs)).toList =
      (resolve [] (segments '/' (cs.map forward))).flatMap denoted := by
  have slashless : ∀ text ∈ (resolve [] (segments '/' (cs.map forward))).map (encode inPath),
      '/' ∉ text :=
    List.forall_mem_map.mpr (forall_mem_resolve (by decide) fun part mem =>
      slash_not_mem_encode (Text.not_mem_of_mem_segments mem))
  have texts : String.toList ∘ segmentText = encode inPath := funext fun part => by
    rw [Function.comp_apply, segmentText_eq, String.toList_ofList]
  have written : (pathOf ('/' :: cs)).toList = '/' :: ['/'].intercalate
      ((resolve [] (segments '/' (cs.map forward))).map (encode inPath)) := by
    rw [pathOf, String.toList_append, String.toList_intercalate, List.map_map, texts]
    rfl
  rw [written, ← List.nil_append ('/' :: _), spelled_append, spelled_intercalate _ slashless,
    List.flatMap_map]
  rfl

/-- A path below a plain one denotes no more octets than were written there, but for slashes. -/
theorem length_spelled_pathOf (plain : IsPlain front) (tail : List Char) :
    (spelled (pathOf ('/' :: (front ++ '/' :: tail))).toList).length ≤
      (spelled front).length + (bytes (unslashed tail)).length := by
  have same : front.map forward = front :=
    (List.map_congr_left fun c mem => if_neg (plain.forall_mem c mem).2).trans (List.map_id' front)
  have parts : segments '/' ((front ++ '/' :: tail).map forward) =
      segments '/' front ++ segments '/' (tail.map forward) := by
    rw [List.map_append, same]
    exact Text.segments_append '/' front (tail.map forward)
  have whole : (segments '/' front).flatMap denoted = spelled front :=
    List.flatMap_congr fun part mem => by rw [denoted, encode_plain (plain part mem)]
  have below : ((segments '/' (tail.map forward)).flatMap denoted).length ≤
      (bytes (unslashed tail)).length := by
    rw [← filter_forward, ← flatten_segments]
    exact length_flatMap_denoted _
  have fewer := (flatMap_resolve (f := denoted) rfl
    (segments '/' ((front ++ '/' :: tail).map forward))).length_le
  rw [← spelled_pathOf, parts, List.flatMap_append, List.length_append, whole] at fewer
  exact fewer.trans (Nat.add_le_add_left below _)

/-- What is left of a text in a path, but for slashes. -/
def kept (cs : List Char) : List Char := unslashed (inFront cs)

variable {c : Char}

theorem kept_cons (fine : breaks c = false) : kept (c :: cs) = c :: kept cs := by
  simp only [breaks, Bool.or_eq_false_iff] at fine
  simp [kept, inFront, counted, unslashed, fine]

theorem length_kept_cons_le (broken : breaks c = true) (cs : List Char) :
    (bytes (kept (c :: cs))).length ≤ (bytes (kept cs)).length := by
  simp only [breaks, Bool.or_eq_true] at broken
  cases ignored : isIgnored c with
  | true => simp [kept, inFront, counted, ignored]
  | false =>
    cases ends : endsPath c with
    | true => simp [kept, inFront, counted, unslashed, ignored, ends, bytes]
    | false =>
      have slash : isSlash c = true := by simpa [ignored, ends] using broken
      simp [kept, inFront, counted, unslashed, ignored, ends, slash]

/-- Characters that break the path up are lost. -/
theorem length_kept_append (cs cs' : List Char) :
    (bytes (kept (cs ++ cs'))).length + (cs.any breaks).toNat ≤
      (bytes cs).length + (bytes (kept cs')).length := by
  induction cs with
  | nil => simp [bytes]
  | cons c cs ih =>
    rw [Text.Percent.bytes_cons, List.length_append, List.any_cons, List.cons_append]
    cases broken : breaks c with
    | true =>
      -- the octets of the character itself make up for the one that is missing
      have filled := Text.Percent.length_utf8EncodeChar_pos c
      have fewer := length_kept_cons_le broken (cs ++ cs')
      rw [Bool.true_or, Bool.toNat_true]
      omega
    | false =>
      rw [kept_cons broken, Text.Percent.bytes_cons, List.length_append, Bool.false_or]
      omega

theorem kept_query (query : Option String) : kept (query.elim [] ('?' :: ·.toList)) = [] := by
  cases query with
  | none => rfl
  | some q => simp [kept, inFront, counted, isIgnored, endsPath, unslashed]

/-- Behind a name at most the verb is left. -/
theorem length_kept_verb (verb query : Option String) :
    (bytes (kept (verb.elim [] ('/' :: ·.toList) ++ query.elim [] ('?' :: ·.toList)))).length ≤
      (verb.elim [] (bytes ·.toList)).length := by
  have none_ := kept_query query
  cases verb with
  | none => simp [none_, bytes]
  | some v =>
    have most := length_kept_append v.toList (query.elim [] ('?' :: ·.toList))
    rw [none_] at most
    exact (length_kept_cons_le (by decide) _).trans (Nat.le_of_add_right_le most)

/-- What a path to a spelled name denotes. -/
theorem spelled_pathTo (spells : Spells segment name)
    (verbs : ∀ v ∈ verb, isSegment v.toList = true ∧ hasEscape v.toList = false) :
    spelled (pathTo collection segment verb).toList =
      spelled collection.toList ++ (bytes name.toList ++ verb.elim [] (bytes ·.toList)) := by
  have here : spelled segment.toList = bytes name.toList := by
    rw [spelled_of_not_mem spells.single, spells.octets, Text.Percent.bytes_toList]
  rw [toList_pathTo, spelled_append]
  cases verb with
  | none => rw [Option.elim_none, List.append_nil, here, Option.elim_none, List.append_nil]
  | some v =>
    obtain ⟨single, literal⟩ := verbs v rfl
    have slashless : '/' ∉ v.toList := fun mem =>
      absurd (not_isSlash_of_isSegment single mem).2 (by decide)
    have behind : octets v.toList = bytes v.toList := by
      rw [← Text.Percent.octets_encode keepsEscapes_inPath literal, encode_plain single]
    rw [Option.elim_some, spelled_append, here, spelled_of_not_mem slashless, behind,
      Option.elim_some]

/-- A path can only denote a name that does not break it up. -/
theorem whole_of_spells (plain : IsPlain collection.toList)
    (verbs : ∀ v ∈ verb, isSegment v.toList = true ∧ hasEscape v.toList = false)
    (path : pathOf ('/' :: inFront (pathTo collection name verb ++
      query.elim "" ("?" ++ ·)).toList) = "/" ++ pathTo collection segment verb)
    (spells : Spells segment name) : ∀ c ∈ name.toList, breaks c = false := by
  let after := verb.elim [] ('/' :: ·.toList) ++ query.elim [] ('?' :: ·.toList)
  have written : (pathTo collection name verb ++ query.elim "" ("?" ++ ·)).toList =
      (collection.toList ++ ['/']) ++ (name.toList ++ after) := by
    rw [String.toList_append, toList_pathTo]
    cases query <;> simp [after]
  have fixed : ∀ c ∈ collection.toList ++ ['/'], isIgnored c = false ∧ endsPath c = false :=
    List.forall_mem_append.mpr ⟨fun c mem => inner_of_unbroken (plain.unbroken c mem),
      List.forall_mem_singleton.mpr (by decide)⟩
  have behind : (bytes (kept after)).length ≤ (verb.elim [] (bytes ·.toList)).length :=
    length_kept_verb verb query
  have alike : spelled (pathOf ('/' :: (collection.toList ++
      '/' :: inFront (name.toList ++ after)))).toList =
      spelled (pathTo collection segment verb).toList := by
    rw [written, inFront_append fixed, List.append_assoc, List.singleton_append] at path
    rw [path, String.toList_append]
    exact spelled_append [] _
  -- the collection is spelled on both sides, so all octets of the name are left of the name
  have most := length_spelled_pathOf plain (inFront (name.toList ++ after))
  have left : (bytes (kept (name.toList ++ after))).length + (name.toList.any breaks).toNat ≤
      (bytes name.toList).length + (bytes (kept after)).length := length_kept_append _ _
  rw [alike, spelled_pathTo spells verbs, List.length_append, List.length_append] at most
  have none_ : (name.toList.any breaks).toNat = 0 := by
    rw [kept] at left
    omega
  have unbroken := Bool.toNat_eq_zero.mp none_
  exact fun c mem => by simpa using List.any_eq_false.mp unbroken c mem

/-- Whatever the name is, a URL is read. -/
theorem exists_ofText? (origin : IsOrigin o) (collection : String)
    (named : IsName name.toList) (verbs : ∀ v ∈ verb, isSegment v.toList = true)
    (asked : ∀ q ∈ query, ∀ c ∈ q.toList, inQuery c = true) :
    ∃ url, ofText? (o ++ "/" ++ pathTo collection name verb ++ query.elim "" ("?" ++ ·)) =
      some url ∧ url.path = pathOf ('/' :: inFront (pathTo collection name verb ++
        query.elim "" ("?" ++ ·)).toList) := by
  have written : (o ++ "/" ++ pathTo collection name verb ++ query.elim "" ("?" ++ ·)).toList =
      o.toList ++ '/' :: (pathTo collection name verb ++ query.elim "" ("?" ++ ·)).toList := by
    simp
  have last : ∀ c ∈ (pathTo collection name verb ++
      query.elim "" ("?" ++ ·)).toList.getLast?, isVisible c = true := by
    cases query with
    | none => simpa using last_pathTo named verbs
    | some q =>
      rw [Option.elim_some, String.toList_append, String.toList_append]
      exact isVisible_last (by decide) fun c mem =>
        (isVisible_of_inQuery (asked q rfl c (List.mem_of_getLast? mem))).1
  exact ⟨_, ofText?_behind origin written last, rfl⟩

/-- A name is spelled by the URL that it is put into, with nothing else moved, exactly if it is
addressable. -/
theorem spells_iff (origin : IsOrigin o) (plain : IsPlain collection.toList)
    (named : IsName name.toList)
    (verbs : ∀ v ∈ verb, isSegment v.toList = true ∧ hasEscape v.toList = false)
    (asked : ∀ q ∈ query, ∀ c ∈ q.toList, inQuery c = true) {url : Url}
    (read : ofText? (o ++ "/" ++ pathTo collection name verb ++ query.elim "" ("?" ++ ·)) =
      some url) :
    (∃ segment, Spells segment name ∧
      url = ⟨o, "/" ++ pathTo collection segment verb, query⟩) ↔ IsAddressable name.toList := by
  have single : ∀ v ∈ verb, isSegment v.toList = true := fun v mem => (verbs v mem).1
  constructor
  · rintro ⟨segment, spells, rfl⟩
    obtain ⟨url, again, path⟩ := exists_ofText? origin collection named single asked
    obtain rfl := Option.some.inj (again.symm.trans read)
    have whole := whole_of_spells plain verbs path.symm spells
    have written := (ofText?_pathTo plain whole single origin named asked).symm.trans read
    have path := (String.append_right_inj _).mp (congrArg Url.path (Option.some.inj written))
    obtain rfl := segment_of_pathTo (single_segmentText whole) spells.single path
    have octets := spells.octets
    have length := Text.Percent.length_octets_encode keepsEscapes_inPath name.toList
    rw [segmentText_eq, String.toList_ofList, Text.Percent.bytes_toList] at octets
    rw [octets] at length
    exact ⟨whole, Bool.toNat_eq_zero.mp (by omega)⟩
  · intro addressable
    rw [ofText?_pathTo plain addressable.whole single origin named asked] at read
    exact ⟨_, addressable.spells, (Option.some.inj read).symm⟩

end ReplicaPorts.Http.Url
