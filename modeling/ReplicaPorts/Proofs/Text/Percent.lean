import Mathlib.Data.List.Flatten
import ReplicaPorts.Text.Percent

/-!
# Octets of escaped texts

A text is spelled by its octets in UTF-8 (`bytes`), and `octets` reads them back from the text in
which some characters are escaped (`octets_encode`). That fails only for a text that looks escaped
itself, with two hexadecimal digits behind a `%`: there fewer octets are read than the text has
(`length_octets_encode`). Where `%` is escaped too, every text is read back (`decode_encodeWith`).
-/

set_option autoImplicit false

namespace ReplicaPorts.Text.Percent

/-! ## Octets -/

/-- The octets of a text in UTF-8. -/
def bytes (cs : List Char) : List UInt8 := cs.flatMap String.utf8EncodeChar

theorem toList_loop (b : ByteArray) (i : Nat) (done : List UInt8) :
    ByteArray.toList.loop b i done = done.reverse ++ b.data.toList.drop i := by
  by_cases within : i < b.size
  · have inside : i < b.data.toList.length := within
    have here : b.get! i = b.data.toList[i] := by simp [ByteArray.get!, within]
    rw [ByteArray.toList.loop, if_pos within, toList_loop b (i + 1), here,
      List.drop_eq_getElem_cons inside, List.reverse_cons, List.append_assoc,
      List.singleton_append]
  · rw [ByteArray.toList.loop, if_neg within, List.drop_eq_nil_of_le (Nat.not_lt.mp within),
      List.append_nil]
termination_by b.size - i

theorem toList_eq (b : ByteArray) : b.toList = b.data.toList := by
  rw [ByteArray.toList, toList_loop]
  rfl

theorem bytes_toList (s : String) : s.toUTF8.toList = bytes s.toList := by
  have written : s.toUTF8 = s.toList.utf8Encode := by
    rw [String.toUTF8, ← String.toByteArray_ofList, String.ofList_toList]
  rw [written, toList_eq, List.utf8Encode, List.data_toByteArray]
  rfl

theorem bytes_append (cs ds : List Char) : bytes (cs ++ ds) = bytes cs ++ bytes ds :=
  List.flatMap_append

theorem bytes_cons (c : Char) (cs : List Char) :
    bytes (c :: cs) = String.utf8EncodeChar c ++ bytes cs :=
  rfl

theorem bytes_singleton (c : Char) :
    (String.singleton c).toUTF8.toList = String.utf8EncodeChar c := by
  rw [bytes_toList, String.toList_singleton]
  exact List.append_nil _

/-! ## Escapes -/

/-- A text in which every octet for which `keep` does not hold is escaped. -/
def encode (keep : Char → Bool) (cs : List Char) : List Char :=
  cs.flatMap fun c => if keep c then [c] else (String.utf8EncodeChar c).flatMap escape

theorem encodeWith_eq (keep : Char → Bool) (s : String) :
    encodeWith keep s = String.ofList (encode keep s.toList) := by
  simp only [encodeWith, encode, bytes_singleton]

theorem hexDigit?_hexDigit : ∀ n < 16, hexDigit? (hexDigit n) = some n := by decide

theorem octets_escape (b : UInt8) (cs : List Char) : octets (escape b ++ cs) = b :: octets cs := by
  have size := b.toNat_lt
  have value : 16 * (b.toNat / 16) + b.toNat % 16 = b.toNat := Nat.div_add_mod b.toNat 16
  rw [escape, List.cons_append, List.cons_append, List.cons_append, List.nil_append, octets,
    hexDigit?_hexDigit _ (by omega), hexDigit?_hexDigit _ (by omega)]
  show UInt8.ofNat (16 * (b.toNat / 16) + b.toNat % 16) :: octets cs = _
  rw [value, UInt8.ofNat_toNat]

theorem octets_escapes (bs : List UInt8) (cs : List Char) :
    octets (bs.flatMap escape ++ cs) = bs ++ octets cs := by
  induction bs with
  | nil => rfl
  | cons b bs ih =>
    rw [List.flatMap_cons, List.append_assoc, octets_escape, ih]
    rfl

/-- Whether a character is a hexadecimal digit. -/
def isHex (c : Char) : Bool := (hexDigit? c).isSome

/-- Whether a text would complete an escape. -/
def opens : List Char → Bool
  | h :: l :: _ => isHex h && isHex l
  | _ => false

/-- Whether something in a text reads as an escape. -/
def hasEscape : List Char → Bool
  | [] => false
  | c :: cs => (c == '%' && opens cs) || hasEscape cs

theorem octets_cons {c : Char} {cs : List Char} (h : (c == '%' && opens cs) = false) :
    octets (c :: cs) = String.utf8EncodeChar c ++ octets cs := by
  conv => lhs; unfold octets
  split
  · next h' l cs' same =>
    obtain ⟨rfl, rfl⟩ := List.cons.inj same
    split
    · next hi lo first second => simp [opens, isHex, first, second] at h
    · rfl
  · next same =>
    obtain ⟨rfl, rfl⟩ := List.cons.inj same
    rw [bytes_singleton]
  · next same => cases same

/-- What a finished escape stands for is one octet. -/
theorem octets_open {cs : List Char} (h : opens cs = true) :
    ∃ first second rest b, cs = first :: second :: rest ∧ isHex first = true ∧
      isHex second = true ∧ octets ('%' :: cs) = b :: octets rest := by
  unfold opens at h
  split at h
  · next first second rest =>
    obtain ⟨high, low⟩ := Bool.and_eq_true_iff.mp h
    obtain ⟨hi, first_⟩ := Option.isSome_iff_exists.mp high
    obtain ⟨lo, second_⟩ := Option.isSome_iff_exists.mp low
    refine ⟨first, second, rest, UInt8.ofNat (16 * hi + lo), rfl, high, low, ?_⟩
    rw [octets, first_, second_]
  · cases h

theorem opens_append {c : Char} {cs : List Char} (first : isHex c = false) (rest : List Char) :
    opens (cs ++ c :: rest) = opens cs := by
  match cs with
  | [] => cases rest <;> simp [opens, first]
  | [d] => simp [opens, first]
  | _ :: _ :: _ => rfl

/-- Nothing reads as an escape across a character that is no digit. -/
theorem hasEscape_append {c : Char} (cs : List Char) (first : isHex c = false)
    (rest : List Char) :
    hasEscape (cs ++ c :: rest) = (hasEscape cs || hasEscape (c :: rest)) := by
  induction cs with
  | nil => rfl
  | cons d cs ih =>
    rw [List.cons_append, hasEscape, opens_append first, ih, ← Bool.or_assoc]
    rfl

/-! ## Reading what is written -/

/-- What escapes are written with is not escaped. -/
structure KeepsEscapes (keep : Char → Bool) : Prop where
  mark : keep '%' = true
  digits : ∀ c, isHex c = true → keep c = true

variable {keep : Char → Bool} {c : Char} {cs : List Char}

theorem encode_cons_of_keep (kept : keep c = true) :
    encode keep (c :: cs) = c :: encode keep cs := by
  rw [encode, List.flatMap_cons, if_pos kept]
  rfl

theorem encode_cons_of_not_keep (escaped : keep c = false) :
    encode keep (c :: cs) = (String.utf8EncodeChar c).flatMap escape ++ encode keep cs := by
  rw [encode, List.flatMap_cons, if_neg (by simp [escaped])]
  rfl

theorem length_utf8EncodeChar_pos (c : Char) : 0 < (String.utf8EncodeChar c).length := by
  rw [String.length_utf8EncodeChar]
  exact c.utf8Size_pos

/-- A character that is escaped completes no escape. -/
theorem head?_encode_of_not_keep (escaped : keep c = false) :
    (encode keep (c :: cs)).head? = some '%' := by
  obtain ⟨b, bs, octets⟩ := List.exists_cons_of_length_pos (length_utf8EncodeChar_pos c)
  rw [encode_cons_of_not_keep escaped, octets]
  rfl

theorem opens_eq_false_of_head? (h : ∀ c ∈ cs.head?, isHex c = false) : opens cs = false := by
  cases cs with
  | nil => rfl
  | cons c cs =>
    have first := h c rfl
    cases cs with
    | nil => rfl
    | cons d cs => rw [opens, first, Bool.false_and]

theorem opens_cons_eq_false_of_head? (h : ∀ c ∈ cs.head?, isHex c = false) :
    opens (c :: cs) = false := by
  cases cs with
  | nil => rfl
  | cons d cs => rw [opens, h d rfl, Bool.and_false]

/-- Escaping completes no escape and breaks none up. -/
theorem opens_encode (keeps : KeepsEscapes keep) (cs : List Char) :
    opens (encode keep cs) = opens cs := by
  have foreign {c : Char} (cs : List Char) (escaped : keep c = false) : isHex c = false ∧
      ∀ d ∈ (encode keep (c :: cs)).head?, isHex d = false := by
    refine ⟨?_, fun d mem => ?_⟩
    · rw [← Bool.not_eq_true]
      exact fun hex => by simp [keeps.digits c hex] at escaped
    · cases (head?_encode_of_not_keep escaped).symm.trans mem
      decide
  cases cs with
  | nil => rfl
  | cons c cs =>
    cases first : keep c with
    | false =>
      obtain ⟨here, written⟩ := foreign cs first
      rw [opens_eq_false_of_head? written, opens_eq_false_of_head?]
      rintro d ⟨⟩
      exact here
    | true =>
      rw [encode_cons_of_keep first]
      cases cs with
      | nil => rfl
      | cons d cs =>
        cases second : keep d with
        | false =>
          obtain ⟨here, written⟩ := foreign cs second
          rw [opens_cons_eq_false_of_head? written, opens_cons_eq_false_of_head?]
          rintro e ⟨⟩
          exact here
        | true =>
          rw [encode_cons_of_keep second]
          rfl

/-- What is written for a character is read as its octets, unless it starts an escape. -/
theorem octets_encode_cons (keeps : KeepsEscapes keep) (h : (c == '%' && opens cs) = false) :
    octets (encode keep (c :: cs)) = String.utf8EncodeChar c ++ octets (encode keep cs) := by
  cases kept : keep c with
  | true =>
    rw [encode_cons_of_keep kept, octets_cons]
    rwa [opens_encode keeps]
  | false => rw [encode_cons_of_not_keep kept, octets_escapes]

/-- Where nothing reads as an escape, the octets of a text are read. -/
theorem octets_encode (keeps : KeepsEscapes keep) (h : hasEscape cs = false) :
    octets (encode keep cs) = bytes cs := by
  induction cs with
  | nil => rfl
  | cons c cs ih =>
    obtain ⟨here, later⟩ := Bool.or_eq_false_iff.mp h
    rw [octets_encode_cons keeps here, ih later]
    rfl

/-- What is written for an escape is read as one octet. -/
theorem octets_encode_open (keeps : KeepsEscapes keep) (h : opens cs = true) :
    ∃ first second rest b, cs = first :: second :: rest ∧
      octets (encode keep ('%' :: cs)) = b :: octets (encode keep rest) := by
  obtain ⟨first, second, rest, -, rfl, high, low, -⟩ := octets_open h
  have written : encode keep ('%' :: first :: second :: rest) =
      '%' :: first :: second :: encode keep rest := by
    rw [encode_cons_of_keep keeps.mark, encode_cons_of_keep (keeps.digits first high),
      encode_cons_of_keep (keeps.digits second low)]
  have again : opens (first :: second :: encode keep rest) = true := h
  obtain ⟨_, _, _, b, same, -, -, read⟩ := octets_open again
  cases same
  exact ⟨first, second, rest, b, rfl, by rw [written, read]⟩

/-- No more octets are read than the text has, and fewer if something in it reads as an escape. -/
theorem length_octets_encode (keeps : KeepsEscapes keep) (cs : List Char) :
    (octets (encode keep cs)).length + (hasEscape cs).toNat ≤ (bytes cs).length := by
  match cs with
  | [] => exact Nat.le_refl 0
  | c :: cs =>
    cases here : c == '%' && opens cs with
    | false =>
      have rest := length_octets_encode keeps cs
      rw [octets_encode_cons keeps here, bytes_cons, List.length_append, List.length_append,
        hasEscape, here, Bool.false_or]
      omega
    | true =>
      obtain ⟨mark, open_⟩ := Bool.and_eq_true_iff.mp here
      obtain rfl := beq_iff_eq.mp mark
      obtain ⟨first, second, rest, b, rfl, read⟩ := octets_encode_open keeps open_
      have later := length_octets_encode keeps rest
      have marked := length_utf8EncodeChar_pos '%'
      have digit := length_utf8EncodeChar_pos first
      have most := Bool.toNat_le (hasEscape ('%' :: first :: second :: rest))
      rw [read, bytes_cons, bytes_cons, bytes_cons]
      simp only [List.length_append, List.length_cons]
      omega
termination_by cs.length

/-! ## Escaping the mark of an escape -/

/-- Where the mark of an escape is escaped too, the octets of every text are read. -/
theorem octets_encode_of_escaped (escaped : keep '%' = false) (cs : List Char) :
    octets (encode keep cs) = bytes cs := by
  induction cs with
  | nil => rfl
  | cons c cs ih =>
    cases kept : keep c with
    | true =>
      have other : (c == '%') = false := by
        refine beq_false_of_ne ?_
        rintro rfl
        rw [escaped] at kept
        cases kept
      rw [encode_cons_of_keep kept, octets_cons (by rw [other, Bool.false_and]), ih, bytes_cons]
    | false => rw [encode_cons_of_not_keep kept, octets_escapes, ih, bytes_cons]

theorem fromUTF8?_toUTF8 (s : String) : String.fromUTF8? s.toUTF8 = some s := by
  unfold String.fromUTF8?
  rw [String.toUTF8_eq_toByteArray, dif_pos s.isValidUTF8]
  rfl

/-- What spells the octets of a text denotes the text. -/
theorem decode_eq {s t : String} (h : octets t.toList = bytes s.toList) : decode t = s := by
  have array : (⟨(octets t.toList).toArray⟩ : ByteArray) = s.toUTF8 := by
    rw [h, ← bytes_toList, toList_eq, Array.toArray_toList]
  rw [decode, array, fromUTF8?_toUTF8, Option.getD_some]

/-- Where the mark of an escape is escaped too, what is written for a text denotes it. -/
theorem decode_encodeWith (escaped : keep '%' = false) (s : String) :
    decode (encodeWith keep s) = s := by
  refine decode_eq ?_
  rw [encodeWith_eq, String.toList_ofList, octets_encode_of_escaped escaped]

theorem decode_encodeStrict (s : String) : decode (encodeStrict s) = s :=
  decode_encodeWith (by decide) s

/-- What holds of all that is not escaped, and of what escapes are written with, holds in what is
written for a text. -/
theorem forall_mem_encode {p : Char → Prop} (kept : ∀ c, keep c = true → p c) (mark : p '%')
    (digit : ∀ n < 16, p (hexDigit n)) (cs : List Char) : ∀ c ∈ encode keep cs, p c := by
  have escaped (b : UInt8) : ∀ c ∈ escape b, p c := by
    have size := b.toNat_lt
    simp only [escape, List.forall_mem_cons]
    exact ⟨mark, digit _ (by omega), digit _ (by omega), List.forall_mem_nil _⟩
  refine List.forall_mem_flatMap.mpr fun c _ => ?_
  split
  · next keeps => exact List.forall_mem_singleton.mpr (kept c keeps)
  · exact List.forall_mem_flatMap.mpr fun b _ => escaped b

theorem toNat_of_isAlphanum {c : Char} (h : c.isAlphanum = true) :
    0x30 ≤ c.toNat ∧ c.toNat ≤ 0x7a := by
  replace h : (decide (c.val ≥ 'A'.val ∧ c.val ≤ 'Z'.val) ||
      (decide (c.val ≥ 'a'.val) && decide (c.val ≤ 'z'.val)) ||
      (decide (c.val ≥ '0'.val) && decide (c.val ≤ '9'.val))) = true := h
  simp only [Bool.or_eq_true, Bool.and_eq_true, decide_eq_true_eq, ge_iff_le,
    UInt32.le_iff_toNat_le] at h
  change 0x30 ≤ c.val.toNat ∧ c.val.toNat ≤ 0x7a
  have a : 'A'.val.toNat = 65 := rfl
  have z : 'Z'.val.toNat = 90 := rfl
  have a' : 'a'.val.toNat = 97 := rfl
  have z' : 'z'.val.toNat = 122 := rfl
  have n : '0'.val.toNat = 48 := rfl
  have n' : '9'.val.toNat = 57 := rfl
  omega

/-- Whether a character may stand in what is written for a text. -/
def isWritten (c : Char) : Bool := isUnreserved c || c == '%'

theorem isWritten_of_mem {s : String} : ∀ c ∈ (encodeStrict s).toList, isWritten c = true := by
  rw [encodeStrict, encodeWith_eq, String.toList_ofList]
  refine forall_mem_encode (fun c kept => ?_) (by decide) (by decide) s.toList
  rw [isWritten, kept, Bool.true_or]

/-- The characters that may stand in what is written for a text are among the first. -/
theorem toNat_of_isWritten (h : isWritten c = true) : c.toNat < 128 := by
  simp only [isWritten, isUnreserved, Bool.or_eq_true, beq_iff_eq] at h
  rcases h with ((((letter | rfl) | rfl) | rfl) | rfl) | rfl
  · exact Nat.lt_of_le_of_lt (toNat_of_isAlphanum letter).2 (by decide)
  all_goals decide

/-- What holds of each of the first characters that may stand in what is written holds of all. -/
theorem of_isWritten {p : Char → Bool}
    (first : ∀ n < 128, isWritten (Char.ofNat n) = true → p (Char.ofNat n) = true)
    (h : isWritten c = true) : p c = true := by
  have here := first c.toNat (toNat_of_isWritten h)
  rw [Char.ofNat_toNat] at here
  exact here h

end ReplicaPorts.Text.Percent
