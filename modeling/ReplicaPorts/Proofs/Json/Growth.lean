import Mathlib.Data.List.Forall2
import Mathlib.Data.List.Nodup
import ReplicaPorts.Json.Decode
import ReplicaPorts.Proofs.Json.Text
import ReplicaPorts.Proofs.Keyed

/-!
# What is read from a value that has grown

A record may hold members that are not known to its reader. A `Growth` says what a value that was
written may have become when such members were put in: into a record anywhere between its own
members, with any values (`Growth.Record`), and the same in every record within.

`Reads` relates what writes a type, what the written values may grow to and what reads them: from
whatever has become of a value, the value itself is read. It holds of plain values, passes on to
lists and collections, and a record has it if it is written field by field (`Written`) and each
field is read from what was written for it (`reads_record`).

An object that `Extends` some members holds them in any order, among others that are not known; from
it they are read as they are (`fields?_of_extends`).
-/

set_option autoImplicit false

namespace ReplicaPorts.Json

/-! ## Growth -/

/-- What values may grow to. -/
abbrev Growth : Type := Json → Json → Prop

namespace Growth

/-- Nothing is put in. -/
def same : Growth := Eq

/-- The items of a list grow. -/
inductive Items (g : Growth) : Growth
  | array {xs ys : List Json} (grown : List.Forall₂ g xs ys) : Items g (.array xs) (.array ys)

/-- The values of a collection grow. -/
inductive Values (g : Growth) : Growth
  | named {ms ns : List (String × Json)}
      (grown : List.Forall₂ (fun m n => m.1 = n.1 ∧ g m.2 n.2) ms ns) :
      Values g (.named ms) (.named ns)

/-- Between the members of a record, whose values grow, there may be members with any values under
names that are none of its fields. -/
inductive Inserted (fields : List (String × Growth)) :
    List (String × Json) → List (String × Json) → Prop
  | nil : Inserted fields [] []
  | field {name : String} {g : Growth} {j k : Json} {ms ns : List (String × Json)}
      (mem : (name, g) ∈ fields) (grown : g j k) (rest : Inserted fields ms ns) :
      Inserted fields ((name, j) :: ms) ((name, k) :: ns)
  | further {name : String} {k : Json} {ms ns : List (String × Json)}
      (unknown : name ∉ fields.map (·.1)) (rest : Inserted fields ms ns) :
      Inserted fields ms ((name, k) :: ns)

/-- A record grows. -/
inductive Record (fields : List (String × Growth)) : Growth
  | named {ms ns : List (String × Json)} (grown : Inserted fields ms ns) :
      Record fields (.named ms) (.named ns)

variable {fields : List (String × Growth)} {ms ns : List (String × Json)}

/-- The members of a record that are fields of it. -/
def known (names : List String) (ms : List (String × Json)) : List (String × Json) :=
  ms.filter fun m => names.contains m.1

theorem known_cons_of_mem {names : List String} {m : String × Json} (mem : m.1 ∈ names) :
    known names (m :: ms) = m :: known names ms :=
  List.filter_cons_of_pos (List.contains_iff_mem.mpr mem)

theorem known_cons_of_not_mem {names : List String} {m : String × Json} (unknown : m.1 ∉ names) :
    known names (m :: ms) = known names ms :=
  List.filter_cons_of_neg fun mem => unknown (List.contains_iff_mem.mp mem)

theorem mem_names {name : String} {g : Growth} (mem : (name, g) ∈ fields) :
    name ∈ fields.map (·.1) :=
  List.mem_map.mpr ⟨(name, g), mem, rfl⟩

/-- The fields of a record that has grown are those that it had. -/
theorem Inserted.names (h : Inserted fields ms ns) :
    (known (fields.map (·.1)) ns).map (·.1) = ms.map (·.1) := by
  induction h with
  | nil => rfl
  | field mem grown rest ih =>
    rw [known_cons_of_mem (mem_names mem), List.map_cons, List.map_cons, ih]
  | further unknown rest ih => rwa [known_cons_of_not_mem unknown]

/-- A field of a record that has grown holds what it held, grown. -/
theorem Inserted.lookup (h : Inserted fields ms ns) (distinct : (fields.map (·.1)).Nodup)
    {name : String} {g : Growth} (field : (name, g) ∈ fields) :
    Option.Rel g (ms.lookup name) ((known (fields.map (·.1)) ns).lookup name) := by
  induction h with
  | nil => exact .none
  | @field other g' j k ms ns mem grown rest ih =>
    rw [known_cons_of_mem (mem_names mem)]
    by_cases here : name = other
    · subst here
      cases List.inj_on_of_nodup_map distinct mem field rfl
      rw [List.lookup_cons_self, List.lookup_cons_self]
      exact .some grown
    · rwa [List.lookup_cons, beq_false_of_ne here, List.lookup_cons, beq_false_of_ne here]
  | further unknown rest ih => rwa [known_cons_of_not_mem unknown]

end Growth

open Growth

/-! ## Reading -/

/-- What is read from whatever a written value has grown to is the value. A value that is written
has its numbers spelled, and may stay as it is. -/
structure Reads {α : Type} (encode : α → Json) (g : Growth) (decode : Json → Option α) : Prop where
  read : ∀ {v j}, g (encode v) j → decode j = some v
  spelled : ∀ v, (encode v).IsSpelled
  stays : ∀ v, g (encode v) (encode v)

theorem reads_same {α : Type} {encode : α → Json} {decode : Json → Option α}
    (read : ∀ v, decode (encode v) = some v) (spelled : ∀ v, (encode v).IsSpelled) :
    Reads encode same decode where
  read {v j} grown := by
    cases grown
    exact read v
  spelled := spelled
  stays _ := rfl

theorem reads_text : Reads .text same text? := reads_same (fun _ => rfl) fun _ => trivial

theorem reads_bool : Reads .bool same bool? := reads_same (fun _ => rfl) fun _ => trivial

theorem intIn?_int {least greatest n : Int} (low : least ≤ n) (high : n ≤ greatest) :
    (Json.int n).intIn? least greatest = some n :=
  if_pos ⟨low, high⟩

theorem reads_int32 : Reads int32 same int32? := by
  refine reads_same (fun n => ?_) fun n => Number.isSpelled_integer _
  rw [int32?, int32, intIn?_int n.minValue_le_toInt n.toInt_le]
  exact congrArg some (Int32.ofInt_toInt n)

theorem reads_uint32 : Reads uint32 same uint32? := by
  refine reads_same (fun n => ?_) fun n => Number.isSpelled_integer _
  have high : (n.toNat : Int) ≤ (UInt32.size : Int) - 1 := by
    have := n.toNat_lt_size
    omega
  rw [uint32?, uint32, Json.nat, intIn?_int (Int.natCast_nonneg _) high]
  exact congrArg some UInt32.ofNat_toNat

section Many

variable {α : Type} {encode : α → Json} {g : Growth} {decode : Json → Option α}

/-- A list is decoded if all its items are. -/
theorem mapM_eq_some {β : Type} {f : β → Option α} {vs : List α} {ys : List β}
    (h : List.Forall₂ (fun v y => f y = some v) vs ys) : ys.mapM f = some vs := by
  induction h with
  | nil => rfl
  | cons first rest ih =>
    rw [List.mapM_cons, first, ih]
    rfl

theorem forall₂_self {β : Type} {R : β → β → Prop} {f : α → β} (h : ∀ a, R (f a) (f a))
    (as : List α) : List.Forall₂ R (as.map f) (as.map f) :=
  List.forall₂_same.mpr fun b mem => by
    obtain ⟨a, -, rfl⟩ := List.mem_map.mp mem
    exact h a

theorem itemsSpelled_of_forall {xs : List Json} (h : ∀ x ∈ xs, x.IsSpelled) : ItemsSpelled xs := by
  induction xs with
  | nil => trivial
  | cons x xs ih =>
    obtain ⟨first, rest⟩ := List.forall_mem_cons.mp h
    exact ⟨first, ih rest⟩

theorem isSpelled_named {ms : List (String × Json)} (h : ∀ m ∈ ms, m.2.IsSpelled) :
    (Json.named ms).IsSpelled := by
  show MembersSpelled _
  induction ms with
  | nil => trivial
  | cons m ms ih =>
    obtain ⟨first, rest⟩ := List.forall_mem_cons.mp h
    exact ⟨first, ih rest⟩

theorem reads_list (h : Reads encode g decode) :
    Reads (fun vs => .array (vs.map encode)) (Items g) (list? decode) where
  read grown := by
    cases grown with
    | array grown =>
      exact mapM_eq_some ((List.forall₂_map_left_iff.mp grown).imp fun _ _ => h.read)
  spelled vs := itemsSpelled_of_forall (List.forall_mem_map.mpr fun v _ => h.spelled v)
  stays vs := .array (forall₂_self h.stays vs)

theorem namedMembers?_named (ms : List (String × Json)) :
    namedMembers? (ms.map fun m => (some m.1, m.2)) = some ms := by
  induction ms with
  | nil => rfl
  | cons m ms ih =>
    rw [namedMembers?] at ih ⊢
    rw [List.map_cons, List.mapM_cons, ih]
    rfl

theorem named_injective {ms ns : List (String × Json)} (h : Json.named ms = .named ns) : ms = ns := by
  have members := congrArg namedMembers? (Json.object.inj h)
  rw [namedMembers?_named, namedMembers?_named] at members
  exact Option.some.inj members

theorem reads_keyed (h : Reads encode g decode) :
    Reads (Member.ofKeyed encode) (Values g) (keyed? decode) where
  read {m j} grown := by
    generalize written : Member.ofKeyed encode m = k at grown
    cases grown with
    | @named ms ns grown =>
      cases named_injective written
      have pairs : ns.mapM (fun n => (decode n.2).map fun v => (n.1, v)) = some m.toList := by
        refine mapM_eq_some ((List.forall₂_map_left_iff.mp grown).imp fun e n alike => ?_)
        rw [h.read alike.2, ← alike.1]
        rfl
      show (do
        let pairs ← (← namedMembers? _).mapM fun n => (decode n.2).map fun v => (n.1, v)
        return Keyed.ofList pairs) = some m
      rw [namedMembers?_named, Option.bind_eq_bind, Option.bind_some, pairs]
      exact congrArg some (Keyed.ofList_toList m)
  spelled m := isSpelled_named (List.forall_mem_map.mpr fun e _ => h.spelled e.2)
  stays m := .named (forall₂_self (fun e => ⟨rfl, h.stays e.2⟩) m.toList)

end Many

/-! ## Records -/

/-- What is written for a field: nothing, or one member under its name. -/
inductive Written (field : String × Growth) : List (String × Json) → Prop
  | nothing : Written field []
  | member {j : Json} (spelled : j.IsSpelled) (stays : field.2 j j) :
      Written field [(field.1, j)]

/-- A record that was read has for a field what was written for it, grown. -/
def Fields.Holds (r : Fields) (field : String × Growth) (ms : List (String × Json)) : Prop :=
  Option.Rel field.2 (ms.lookup field.1) (r.get? field.1)

section Field

variable {α : Type} {encode : α → Json} {g : Growth} {decode : Json → Option α} {name : String}
  {r : Fields}

theorem Reads.always (h : Reads encode g decode) (v : α) :
    Written (name, g) (Member.always name (encode v)) :=
  .member (h.spelled v) (h.stays v)

theorem Reads.unlessNone (h : Reads encode g decode) (v : Option α) :
    Written (name, g) (Member.unlessNone name encode v) := by
  cases v with
  | none => exact .nothing
  | some v => exact h.always v

theorem Reads.unlessNil (h : Reads encode g decode) (vs : List α) :
    Written (name, Items g) (Member.unlessNil name encode vs) := by
  cases vs with
  | nil => exact .nothing
  | cons v vs => exact (reads_list h).always (v :: vs)

theorem Reads.unlessEmpty (h : Reads encode g decode) (m : Keyed String α) :
    Written (name, Values g) (Member.unlessEmpty name encode m) := by
  unfold Member.unlessEmpty
  split
  · exact .nothing
  · exact (reads_keyed h).always m

theorem get?_of_holds {j : Json} (held : r.Holds (name, g) [(name, j)]) :
    ∃ k, r.get? name = some k ∧ g j k := by
  unfold Fields.Holds at held
  rw [List.lookup_cons_self] at held
  generalize r.get? name = found at held
  cases held with
  | some grown => exact ⟨_, rfl, grown⟩

theorem get?_of_holds_nil (held : r.Holds (name, g) []) : r.get? name = none := by
  unfold Fields.Holds at held
  generalize r.get? name = found at held
  cases held
  rfl

theorem Reads.required (h : Reads encode g decode) {v : α}
    (held : r.Holds (name, g) (Member.always name (encode v))) :
    r.required? name decode = some v := by
  obtain ⟨k, found, grown⟩ := get?_of_holds held
  rw [Fields.required?, found]
  exact h.read grown

theorem Reads.withDefault (h : Reads encode g decode) {v : α}
    (held : r.Holds (name, g) (Member.always name (encode v))) (default : α) :
    r.withDefault? name decode default = some v := by
  obtain ⟨k, found, grown⟩ := get?_of_holds held
  rw [Fields.withDefault?, found]
  exact h.read grown

/-- A field that is none is left out; one that is some value is not written as `null`. -/
theorem Reads.optional (h : Reads encode g decode) (proper : decode .null = none) {v : Option α}
    (held : r.Holds (name, g) (Member.unlessNone name encode v)) :
    r.optional? name decode = some v := by
  cases v with
  | none => rw [Fields.optional?, get?_of_holds_nil held]
  | some v =>
    obtain ⟨k, found, grown⟩ := get?_of_holds held
    have read := h.read grown
    rw [Fields.optional?, found]
    cases k with
    | null =>
      rw [proper] at read
      cases read
    | _ => exact congrArg (Option.map some) read

theorem Reads.listOrNil (h : Reads encode g decode) {vs : List α}
    (held : r.Holds (name, Items g) (Member.unlessNil name encode vs)) :
    r.withDefault? name (list? decode) [] = some vs := by
  cases vs with
  | nil => rw [Fields.withDefault?, get?_of_holds_nil held]
  | cons v vs => exact (reads_list h).withDefault held []

theorem Reads.keyedOrEmpty (h : Reads encode g decode) {m : Keyed String α}
    (held : r.Holds (name, Values g) (Member.unlessEmpty name encode m)) :
    r.withDefault? name (keyed? decode) ∅ = some m := by
  unfold Member.unlessEmpty at held
  split at held
  · next empty =>
    obtain ⟨entries, ascending⟩ := m
    cases List.isEmpty_iff.mp empty
    rw [Fields.withDefault?, get?_of_holds_nil held]
    rfl
  · exact (reads_keyed h).withDefault held ∅

end Field

section Record

variable {fields : List (String × Growth)} {members : List (List (String × Json))}

/-- Each member that is written belongs to a field. -/
theorem exists_of_mem_flatten (written : List.Forall₂ Written fields members) {m : String × Json}
    (mem : m ∈ members.flatten) :
    ∃ g, (m.1, g) ∈ fields ∧ m.2.IsSpelled ∧ g m.2 m.2 := by
  induction written with
  | nil => cases mem
  | @cons field ms fields members first rest ih =>
    rcases List.mem_append.mp mem with here | later
    · cases first with
      | nothing => cases here
      | member spelled stays =>
        cases List.mem_singleton.mp here
        exact ⟨field.2, List.mem_cons_self, spelled, stays⟩
    · obtain ⟨g, known, rest⟩ := ih later
      exact ⟨g, List.mem_cons_of_mem _ known, rest⟩

/-- The members are written in the order of the fields. -/
theorem names_sublist (written : List.Forall₂ Written fields members) :
    (members.flatten.map (·.1)).Sublist (fields.map (·.1)) := by
  induction written with
  | nil => exact .slnil
  | cons first rest ih =>
    rw [List.flatten_cons, List.map_append]
    cases first with
    | nothing => exact ih.cons _
    | member => exact ih.cons_cons _

theorem lookup_eq_none {name : String} {ms : List (String × Json)} (h : name ∉ ms.map (·.1)) :
    ms.lookup name = none :=
  List.lookup_eq_none_iff.mpr fun m mem => bne_iff_ne.mpr fun same =>
    h (List.mem_map.mpr ⟨m, mem, same.symm⟩)

/-- Under the name of a field there is nothing but what was written for it. -/
theorem lookup_flatten (written : List.Forall₂ Written fields members)
    (distinct : (fields.map (·.1)).Nodup) {field : String × Growth} {ms : List (String × Json)}
    (pair : (field, ms) ∈ fields.zip members) :
    members.flatten.lookup field.1 = ms.lookup field.1 := by
  induction written with
  | nil => cases pair
  | @cons field' ms' fields members first rest ih =>
    obtain ⟨new, distinct⟩ := List.nodup_cons.mp distinct
    rw [List.flatten_cons, List.lookup_append]
    cases pair with
    | head =>
      rw [lookup_eq_none fun later => new ((names_sublist rest).subset later), Option.or_none]
    | tail _ pair =>
      have other : field.1 ≠ field'.1 := fun same =>
        new (List.mem_map.mpr ⟨field, (List.of_mem_zip pair).1, same⟩)
      have nothing : ms'.lookup field.1 = none := by
        cases first with
        | nothing => rfl
        | member => exact lookup_eq_none fun mem => other (List.mem_singleton.mp mem)
      rw [nothing, Option.none_or, ih distinct pair]

theorem inserted_self {ms : List (String × Json)}
    (h : ∀ m ∈ ms, ∃ g, (m.1, g) ∈ fields ∧ g m.2 m.2) : Inserted fields ms ms := by
  induction ms with
  | nil => exact .nil
  | cons m ms ih =>
    obtain ⟨⟨g, mem, stays⟩, rest⟩ := List.forall_mem_cons.mp h
    exact .field mem stays (ih rest)

/-- From a record that has grown the fields are read as they were written. -/
theorem fields?_of_grown (written : List.Forall₂ Written fields members)
    (distinct : (fields.map (·.1)).Nodup) {j : Json} (grown : Record fields (record members) j) :
    ∃ r, j.fields? (fields.map (·.1)) = some r ∧ List.Forall₂ r.Holds fields members := by
  generalize before : record members = k at grown
  cases grown with
  | @named ms ns inserted =>
    cases named_injective before
    have single : ((known (fields.map (·.1)) ns).map (·.1)).Nodup := by
      rw [inserted.names]
      exact distinct.sublist (names_sublist written)
    refine ⟨⟨known (fields.map (·.1)) ns⟩, ?_, List.forall₂_iff_zip.mpr ⟨written.length_eq, ?_⟩⟩
    · rw [Json.named, Json.fields?, namedMembers?_named]
      exact if_pos single
    · intro field ms pair
      rw [Fields.Holds, ← lookup_flatten written distinct pair]
      exact inserted.lookup distinct (List.of_mem_zip pair).1

/-- Records are read if they are written field by field and each field is read from what was
written for it. -/
theorem reads_record {α : Type} {encode : α → Json} {decode : Json → Option α}
    (members : α → List (List (String × Json))) (written : ∀ v, encode v = record (members v))
    (distinct : (fields.map (·.1)).Nodup)
    (fieldwise : ∀ v, List.Forall₂ Written fields (members v))
    (read : ∀ {v r j}, j.fields? (fields.map (·.1)) = some r →
      List.Forall₂ r.Holds fields (members v) → decode j = some v) :
    Reads encode (Record fields) decode where
  read {v j} grown := by
    rw [written] at grown
    obtain ⟨r, given, held⟩ := fields?_of_grown (fieldwise v) distinct grown
    exact read given held
  spelled v := by
    rw [written]
    refine isSpelled_named fun m mem => ?_
    obtain ⟨g, -, spelled, -⟩ := exists_of_mem_flatten (fieldwise v) mem
    exact spelled
  stays v := by
    rw [written]
    refine .named (inserted_self fun m mem => ?_)
    obtain ⟨g, known, -, stays⟩ := exists_of_mem_flatten (fieldwise v) mem
    exact ⟨g, known, stays⟩

end Record

/-! ## Members in any order -/

/-- An object holds some members, in any order, and may hold further ones with any values, under
names that are not known. -/
inductive Extends (names : List String) (ms : List (String × Json)) : Json → Prop
  | named {further ns : List (String × Json)} (unknown : ∀ m ∈ further, m.1 ∉ names)
      (order : ns.Perm (ms ++ further)) : Extends names ms (.named ns)

/-- Where no name is given twice, a name leads to the member that it is given with. -/
theorem lookup_eq_some_iff_mem {ms : List (String × Json)} (distinct : (ms.map (·.1)).Nodup)
    {name : String} {j : Json} : ms.lookup name = some j ↔ (name, j) ∈ ms := by
  rw [List.lookup_eq_some_iff]
  constructor
  · rintro ⟨before, after, rfl, -⟩
    exact List.mem_append_right before List.mem_cons_self
  · intro mem
    obtain ⟨before, after, rfl⟩ := List.append_of_mem mem
    refine ⟨before, after, rfl, fun m here => bne_iff_ne.mpr fun same => ?_⟩
    rw [List.map_append, List.map_cons, List.nodup_append] at distinct
    exact distinct.2.2 m.1 (List.mem_map.mpr ⟨m, here, rfl⟩) name List.mem_cons_self same.symm

/-- From an object the members are read that it holds under known names. -/
theorem fields?_of_extends {names : List String} {ms : List (String × Json)} {j : Json}
    (own : ∀ m ∈ ms, m.1 ∈ names) (distinct : (ms.map (·.1)).Nodup) (h : Extends names ms j) :
    ∃ r, j.fields? names = some r ∧ ∀ name, r.get? name = ms.lookup name := by
  cases h with
  | @named further ns unknown order =>
    have all : known names ms = ms :=
      List.filter_eq_self.mpr fun m mem => List.contains_iff_mem.mpr (own m mem)
    have none_ : known names further = [] := List.filter_eq_nil_iff.mpr fun m mem given =>
      unknown m mem (List.contains_iff_mem.mp given)
    have parts : (known names ns).Perm (known names ms ++ known names further) := by
      rw [known, known, known, ← List.filter_append]
      exact order.filter _
    rw [all, none_, List.append_nil] at parts
    have single : ((known names ns).map (·.1)).Nodup := (parts.map (·.1)).nodup_iff.mpr distinct
    refine ⟨⟨known names ns⟩, ?_, fun name => Option.ext fun k => ?_⟩
    · rw [Json.named, Json.fields?, namedMembers?_named]
      exact if_pos single
    · show List.lookup name _ = some k ↔ _
      rw [lookup_eq_some_iff_mem single, lookup_eq_some_iff_mem distinct, parts.mem_iff]

/-- From an object that holds what was written for some fields, the fields are read as they were
written. -/
theorem holds_of_extends {fields : List (String × Growth)} {members : List (List (String × Json))}
    (written : List.Forall₂ Written fields members) (distinct : (fields.map (·.1)).Nodup) {j : Json}
    (h : Extends (fields.map (·.1)) members.flatten j) :
    ∃ r, j.fields? (fields.map (·.1)) = some r ∧ List.Forall₂ r.Holds fields members := by
  have single : (members.flatten.map (·.1)).Nodup := distinct.sublist (names_sublist written)
  have own : ∀ m ∈ members.flatten, m.1 ∈ fields.map (·.1) := fun m mem => by
    obtain ⟨g, field, -⟩ := exists_of_mem_flatten written mem
    exact mem_names field
  obtain ⟨r, given, get⟩ := fields?_of_extends own single h
  refine ⟨r, given, List.forall₂_iff_zip.mpr ⟨written.length_eq, fun {field ms} pair => ?_⟩⟩
  rw [Fields.Holds, get, lookup_flatten written distinct pair]
  cases (List.forall₂_iff_zip.mp written).2 pair with
  | nothing => exact .none
  | member _ stays =>
    rw [List.lookup_cons_self]
    exact .some stays

end ReplicaPorts.Json
