import ReplicaPorts.Text.Decimal

/-!
# Numbers that texts spell

A text is read as a number exactly if it spells one that keeps to the bound
(`readBounded_eq_ok_iff`). The reader gives up at the first digit that takes the value past the
bound; more digits never make a number smaller, so the whole number passes the bound too.
-/

set_option autoImplicit false

namespace ReplicaPorts.Text

def IsDigit (c : Char) : Prop := '0' ≤ c ∧ c ≤ '9'

instance (c : Char) : Decidable (IsDigit c) := inferInstanceAs (Decidable (_ ∧ _))

/-- A text that spells a number: digits, at least one, and a plus sign in front if one likes. -/
def Spells (cs : List Char) (n : Nat) : Prop :=
  ∃ digits, (cs = digits ∨ cs = '+' :: digits) ∧ digits ≠ [] ∧ (∀ c ∈ digits, IsDigit c) ∧
    digitsValue digits = n

theorem le_foldl_withDigit (value : Nat) (cs : List Char) : value ≤ cs.foldl withDigit value := by
  induction cs generalizing value with
  | nil => exact Nat.le_refl _
  | cons c cs ih =>
    have more : value ≤ withDigit value c := by
      unfold withDigit
      omega
    exact Nat.le_trans more (ih _)

theorem readDigits_eq_ok_iff {bound value n : Nat} {cs : List Char} (within : value ≤ bound) :
    readDigits bound value cs = .ok n ↔
      (∀ c ∈ cs, IsDigit c) ∧ cs.foldl withDigit value = n ∧ n ≤ bound := by
  induction cs generalizing value with
  | nil =>
    constructor
    · intro h
      obtain rfl := Except.ok.inj h
      exact ⟨nofun, rfl, within⟩
    · rintro ⟨-, rfl, -⟩
      rfl
  | cons c cs ih =>
    by_cases digit : IsDigit c
    · have known : digit? c = some (c.toNat - '0'.toNat) := if_pos digit
      have step : readDigits bound value (c :: cs) = if withDigit value c ≤ bound then
          readDigits bound (withDigit value c) cs else .error .tooLarge := by
        simp only [readDigits, known]
        rfl
      rw [step]
      by_cases small : withDigit value c ≤ bound
      · rw [if_pos small, List.forall_mem_cons, and_iff_right digit]
        exact ih small
      · rw [if_neg small]
        refine iff_of_false nofun ?_
        rintro ⟨-, rfl, atMost⟩
        exact small (Nat.le_trans (le_foldl_withDigit _ cs) atMost)
    · have unknown : digit? c = none := if_neg digit
      simp only [readDigits, unknown]
      exact iff_of_false nofun fun all => digit (all.1 c List.mem_cons_self)

theorem readBounded_eq_ok_iff {bound n : Nat} {cs : List Char} :
    readBounded bound cs = .ok n ↔ Spells cs n ∧ n ≤ bound := by
  have signless : ¬ IsDigit '+' := by decide
  have read : ∀ digits, digits ≠ [] →
      (readDigits bound 0 digits = .ok n ↔
        (∀ c ∈ digits, IsDigit c) ∧ digitsValue digits = n ∧ n ≤ bound) :=
    fun _ _ => readDigits_eq_ok_iff (Nat.zero_le _)
  unfold readBounded
  split
  · refine iff_of_false nofun ?_
    rintro ⟨⟨digits, rfl | same, some_, -⟩, -⟩
    · exact some_ rfl
    · cases same
  · refine iff_of_false nofun ?_
    rintro ⟨⟨digits, rfl | same, some_, all, -⟩, -⟩
    · exact signless (all '+' List.mem_cons_self)
    · cases same
      exact some_ rfl
  · next digits none_ =>
    have some_ : digits ≠ [] := none_
    rw [read digits some_]
    constructor
    · rintro ⟨all, value, atMost⟩
      exact ⟨⟨digits, .inr rfl, some_, all, value⟩, atMost⟩
    · rintro ⟨⟨digits', rfl | same, -, all, value⟩, atMost⟩
      · exact absurd (all '+' List.mem_cons_self) signless
      · cases same
        exact ⟨all, value, atMost⟩
  · next none_ plain signed =>
    have some_ : cs ≠ [] := none_
    rw [read cs some_]
    constructor
    · rintro ⟨all, value, atMost⟩
      exact ⟨⟨cs, .inl rfl, some_, all, value⟩, atMost⟩
    · rintro ⟨⟨digits, rfl | rfl, -, all, value⟩, atMost⟩
      · exact ⟨all, value, atMost⟩
      · exact absurd rfl (signed digits)

end ReplicaPorts.Text
