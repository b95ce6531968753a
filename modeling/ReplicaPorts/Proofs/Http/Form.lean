import ReplicaPorts.Http.Form
import ReplicaPorts.Http.Url
import ReplicaPorts.Proofs.Text.Cut
import ReplicaPorts.Proofs.Text.Percent

/-!
# Pairs in queries

A name and a value that are escaped, with `=` between them, are one pair of a query, whatever
characters they have (`decode_pair`), and a URL takes them as they are (`inQuery_pair`).
-/

set_option autoImplicit false

namespace ReplicaPorts.Http.Form

open Text.Percent (encodeStrict decode_encodeStrict isWritten isWritten_of_mem of_isWritten)

variable {c : Char}

/-- Whether a character divides a query. -/
def divides (c : Char) : Bool := c == '&' || c == '=' || c == '+'

theorem not_divides_of_isWritten (h : isWritten c = true) : divides c = false := by
  have := of_isWritten (p := fun c => !divides c) (by decide +kernel) h
  simpa using this

theorem inQuery_of_isWritten (h : isWritten c = true) : Url.inQuery c = true :=
  of_isWritten (p := Url.inQuery) (by decide +kernel) h

/-- What is written for a text is read as the text. -/
theorem decodePart_encodeStrict (s : String) : decodePart (encodeStrict s).toList = s := by
  have same : (encodeStrict s).toList.map (fun c => if c = '+' then ' ' else c) =
      (encodeStrict s).toList := by
    refine (List.map_congr_left fun c mem => if_neg ?_).trans (List.map_id' _)
    rintro rfl
    cases not_divides_of_isWritten (isWritten_of_mem '+' mem)
  rw [decodePart, same, String.ofList_toList, decode_encodeStrict]

/-- What is written of a name and a value. -/
theorem toList_pair (name value : String) :
    (encodeStrict name ++ "=" ++ encodeStrict value).toList =
      (encodeStrict name).toList ++ '=' :: (encodeStrict value).toList := by
  simp

theorem not_mem_encodeStrict {d : Char} (h : divides d = true) (s : String) :
    d ∉ (encodeStrict s).toList := by
  intro mem
  rw [not_divides_of_isWritten (isWritten_of_mem d mem)] at h
  cases h

/-- An escaped name and an escaped value are one pair. -/
theorem decode_pair (name value : String) :
    decode (encodeStrict name ++ "=" ++ encodeStrict value) = [(name, value)] := by
  have whole : '&' ∉ (encodeStrict name).toList ++ '=' :: (encodeStrict value).toList := by
    rw [List.mem_append, List.mem_cons, not_or, not_or]
    exact ⟨not_mem_encodeStrict rfl name, by decide, not_mem_encodeStrict rfl value⟩
  have pair : decodePair ((encodeStrict name).toList ++ '=' :: (encodeStrict value).toList) =
      (name, value) := by
    have cut := Text.cut?_of_not_mem (not_mem_encodeStrict (d := '=') rfl name)
    simp only [decodePair, cut, decodePart_encodeStrict]
  rw [decode, toList_pair, Text.segments_of_not_mem whole, List.filter_cons_of_pos (by simp),
    List.filter_nil, List.map_singleton, pair]

/-- A URL takes a pair as it is. -/
theorem inQuery_pair (name value : String) :
    ∀ c ∈ (encodeStrict name ++ "=" ++ encodeStrict value).toList, Url.inQuery c = true := by
  have part (s : String) : ∀ c ∈ (encodeStrict s).toList, Url.inQuery c = true := fun c mem =>
    inQuery_of_isWritten (isWritten_of_mem c mem)
  rw [toList_pair, List.forall_mem_append, List.forall_mem_cons]
  exact ⟨part name, by decide, part value⟩

end ReplicaPorts.Http.Form
