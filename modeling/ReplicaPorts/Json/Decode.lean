import ReplicaPorts.Json.Reader
import ReplicaPorts.Keyed

/-!
# Decoding records

How a value is read as a record of known fields, as a list, as a keyed collection or as a plain
value. A record is written as an object or, its fields in order, as an array; members with other
names do not matter, a field given twice is refused, and an array may stop early but hold nothing
beyond the last field. A field that is missing is refused, takes a default, or is none, and only in
the last case does `null` stand for a missing one.
-/

set_option autoImplicit false

namespace ReplicaPorts.Json

/-! ## Plain values -/

def text? : Json → Option String
  | .string s => s
  | _ => none

def bool? : Json → Option Bool
  | .bool b => some b
  | _ => none

/-- The integer that a value is, if it lies between two bounds. -/
def intIn? (least greatest : Int) : Json → Option Int
  | .number (.integer n) => if least ≤ n ∧ n ≤ greatest then some n else none
  | _ => none

/-- The signed integer of 32 bits that a value is. -/
def int32? (j : Json) : Option Int32 :=
  (j.intIn? Int32.minValue.toInt Int32.maxValue.toInt).map Int32.ofInt

/-- The signed integer of 64 bits that a value is. -/
def int64? (j : Json) : Option Int64 :=
  (j.intIn? Int64.minValue.toInt Int64.maxValue.toInt).map Int64.ofInt

/-- The unsigned integer of 32 bits that a value is. -/
def uint32? (j : Json) : Option UInt32 :=
  (j.intIn? 0 (UInt32.size - 1)).map fun n => UInt32.ofNat n.toNat

/-- The unsigned integer of 16 bits that a value is. -/
def uint16? (j : Json) : Option UInt16 :=
  (j.intIn? 0 (UInt16.size - 1)).map fun n => UInt16.ofNat n.toNat

/-! ## Lists and collections -/

/-- The list that a value is, each item decoded. -/
def list? {α : Type} (item? : Json → Option α) : Json → Option (List α)
  | .array xs => xs.mapM item?
  | _ => none

def namedMembers? (members : List (Option String × Json)) : Option (List (String × Json)) :=
  members.mapM fun m => m.1.map fun k => (k, m.2)

/-- The keyed collection that a value is, each value decoded; the last of several members with one
name counts. -/
def keyed? {α : Type} (value? : Json → Option α) : Json → Option (Keyed String α)
  | .object ms => do
    let pairs ← (← namedMembers? ms).mapM fun m => (value? m.2).map fun v => (m.1, v)
    return .ofList pairs
  | _ => none

/-! ## Records -/

/-- The fields of a record that were given, by name. -/
structure Fields where
  given : List (String × Json)

/-- The known fields of a record, from an object or from an array of values in the order of the
names. -/
def fields? (names : List String) : Json → Option Fields
  | .object ms => do
    let known := (← namedMembers? ms).filter fun m => names.contains m.1
    if (known.map (·.1)).Nodup then some ⟨known⟩ else none
  | .array xs => if xs.length ≤ names.length then some ⟨names.zip xs⟩ else none
  | _ => none

namespace Fields

variable {α : Type}

def get? (r : Fields) (name : String) : Option Json := r.given.lookup name

def required? (r : Fields) (name : String) (value? : Json → Option α) : Option α :=
  (r.get? name).bind value?

/-- A field with a value of its own when it is missing. -/
def withDefault? (r : Fields) (name : String) (value? : Json → Option α) (default : α) : Option α :=
  match r.get? name with
  | none => some default
  | some j => value? j

def optional? (r : Fields) (name : String) (value? : Json → Option α) : Option (Option α) :=
  match r.get? name with
  | none => some none
  | some .null => some none
  | some j => (value? j).map some

end Fields

/-! ## Writing records -/

namespace Member

variable {α : Type}

def always (name : String) (j : Json) : List (String × Json) := [(name, j)]

/-- A member that is left out when there is no value. -/
def unlessNone (name : String) (encode : α → Json) : Option α → List (String × Json)
  | none => []
  | some v => [(name, encode v)]

/-- A member that is left out when the list is empty. -/
def unlessNil (name : String) (encode : α → Json) (vs : List α) : List (String × Json) :=
  if vs.isEmpty then [] else [(name, .array (vs.map encode))]

def ofKeyed (encode : α → Json) (m : Keyed String α) : Json :=
  .named (m.toList.map fun e => (e.1, encode e.2))

/-- A member that is left out when the collection is empty. -/
def unlessEmpty (name : String) (encode : α → Json) (m : Keyed String α) : List (String × Json) :=
  if m.isEmpty then [] else [(name, ofKeyed encode m)]

end Member

def record (members : List (List (String × Json))) : Json := .named members.flatten

def int32 (n : Int32) : Json := .int n.toInt

def int64 (n : Int64) : Json := .int n.toInt

/-- An unsigned integer of 32 bits as a value. -/
def uint32 (n : UInt32) : Json := .nat n.toNat

/-! ## Reading single members -/

/-- The last member of an object under a name, whatever else the object holds. -/
def member? (name : String) : Json → Option Json
  | .object ms => (ms.reverse.find? fun m => m.1 == some name).map (·.2)
  | _ => none

end ReplicaPorts.Json
