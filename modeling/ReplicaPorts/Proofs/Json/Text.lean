import Mathlib.Data.List.TakeWhile
import ReplicaPorts.Json.Printer
import ReplicaPorts.Json.Reader

/-!
# What is written is read

The text of a value is read as that value (`ofText?_toText`), provided that its numbers are spelled
as numbers are (`IsSpelled`), as all integers are (`Number.isSpelled_integer`): a literal may be any
text otherwise. The text is cut into the tokens of the value (`scan_chars`), and these build the
value up again (`builds_tokens`).
-/

set_option autoImplicit false

namespace ReplicaPorts.Json

open Token (Mode Content scanFrom? start?)

variable {ts : List Token} {cs : List Char}

/-! ## Strings -/

theorem scanFrom?_letter {k : Content} {e c : Char} (h : Token.escaped? e = some c) :
    scanFrom? ts (.inString k) ('\\' :: e :: cs) = scanFrom? ts (.inString (k.push c)) cs := by
  have other : e ≠ 'u' := by
    rintro rfl
    cases h
  rw [scanFrom?, h]
  intro _ _ _ _ _ same
  exact fun _ => other same

theorem scanFrom?_plain {k : Content} {c : Char} (quote : c ≠ '"') (backslash : c ≠ '\\')
    (visible : ¬ c.toNat < 0x20) :
    scanFrom? ts (.inString k) (c :: cs) = scanFrom? ts (.inString (k.push c)) cs := by
  rw [scanFrom?, if_neg quote, if_neg (by simp [backslash, visible])]
  · intro _ _ _ _ _ same
    exact fun _ => backslash same
  · intro _ _ same
    exact fun _ => backslash same

/-- A control character is read back from its four digits. -/
theorem hex4?_hexFour (n : Nat) (control : n < 0x20) :
    ∃ a b c d, hexFour n = [a, b, c, d] ∧ Token.hex4? a b c d = some n := by
  refine ⟨_, _, _, _, rfl, ?_⟩
  revert n
  decide

/-- A character of a string is read back from what is written for it. -/
theorem scanFrom?_stringChar (k : Content) (c : Char) :
    scanFrom? ts (.inString k) (stringChar c ++ cs) = scanFrom? ts (.inString (k.push c)) cs := by
  unfold stringChar
  split
  any_goals exact scanFrom?_letter rfl
  next quote backslash _ _ _ _ _ =>
    split
    · next control =>
      obtain ⟨a, b, c', d, digits, value⟩ := hex4?_hexFour c.toNat control
      rw [digits]
      show scanFrom? ts (.inString k) ('\\' :: 'u' :: a :: b :: c' :: d :: cs) = _
      rw [scanFrom?, value]
      have plain : k.pushCode c.toNat = k.push c := by
        rw [Content.pushCode, if_neg (by omega), if_neg (by omega), Char.ofNat_toNat]
      simp only [plain]
    · next visible => exact scanFrom?_plain quote backslash visible

theorem scanFrom?_stringChars (k : Content) (text : List Char) :
    scanFrom? ts (.inString k) (text.flatMap stringChar ++ cs) =
      scanFrom? ts (.inString (text.foldl Content.push k)) cs := by
  induction text generalizing k with
  | nil => rfl
  | cons c text ih => rw [List.flatMap_cons, List.append_assoc, scanFrom?_stringChar, ih]; rfl

theorem foldl_push (done text : List Char) :
    text.foldl Content.push ⟨some done, none⟩ = ⟨some (text.reverse ++ done), none⟩ := by
  induction text generalizing done with
  | nil => rfl
  | cons c text ih =>
    rw [List.foldl_cons, Content.push, Option.map_some, ih, List.reverse_cons, List.append_assoc]
    rfl

/-- A string is read back from its text, whatever follows. -/
theorem scanFrom?_stringText (s : Option String) :
    scanFrom? ts .between (stringText s ++ cs) = scanFrom? (.string s :: ts) .between cs := by
  cases s with
  | none => rfl
  | some s =>
    show scanFrom? ts .between ('"' :: s.toList.flatMap stringChar ++ ['"'] ++ cs) = _
    rw [List.append_assoc, List.cons_append]
    show scanFrom? ts (.inString .empty) (s.toList.flatMap stringChar ++ '"' :: cs) = _
    rw [scanFrom?_stringChars, Content.empty, foldl_push]
    show scanFrom? (.string (some (String.ofList (s.toList.reverse ++ []).reverse)) :: ts)
      .between cs = _
    rw [List.append_nil, List.reverse_reverse, String.ofList_toList]

/-! ## Numbers and words -/

/-- A number that is read from what is written for it. -/
def Number.IsSpelled (n : Number) : Prop := Token.number? (numberText n) = some n

theorem digitsValue_toDigits (n : Nat) : Text.digitsValue (Nat.toDigits 10 n) = n := by
  have value : Nat.ofDigitChars 10 (Nat.toDigits 10 n) 0 = n := Nat.ofDigitChars_ten_toDigits
  rwa [Nat.ofDigitChars_eq_foldl] at value

theorem isDigit_of_mem_toDigits {n : Nat} {c : Char} (mem : c ∈ Nat.toDigits 10 n) :
    c.isDigit = true :=
  Nat.isDigit_of_mem_toDigits (by decide) (by decide) mem

/-- The digits of a number start with a zero only if it is zero. -/
theorem head?_toDigits {n : Nat} (positive : 0 < n) : (Nat.toDigits 10 n).head? ≠ some '0' := by
  have first : ∀ d < 10, 0 < d → some (Nat.digitChar d) ≠ some '0' := by decide
  induction n using Nat.strongRecOn with
  | ind n ih =>
    by_cases small : n < 10
    · rw [Nat.toDigits_of_lt_base small]
      exact first n small positive
    · rw [Nat.toDigits_of_base_le (by decide) (Nat.not_lt.mp small),
        List.head?_append, Option.or_of_isSome (List.isSome_head?.mpr Nat.toDigits_ne_nil)]
      exact ih (n / 10) (by omega) (by omega)

theorem isWhole_toDigits (n : Nat) : Token.isWhole (Nat.toDigits 10 n) = true := by
  have digits : Token.allDigits (Nat.toDigits 10 n) = true := by
    rw [Token.allDigits, List.isEmpty_eq_false_iff.mpr Nat.toDigits_ne_nil]
    exact List.all_eq_true.mpr fun c => isDigit_of_mem_toDigits
  cases Nat.eq_zero_or_pos n with
  | inl zero =>
    rw [zero]
    decide
  | inr positive => simp [Token.isWhole, digits, head?_toDigits positive]

/-- What is written for an integer is read as the integer. -/
theorem Number.isSpelled_integer (n : Int) : (Number.integer n).IsSpelled := by
  have whole (m : Nat) : (Nat.toDigits 10 m).takeWhile Char.isDigit = Nat.toDigits 10 m :=
    List.takeWhile_eq_self_iff.mpr fun c => isDigit_of_mem_toDigits
  have nothing (m : Nat) : (Nat.toDigits 10 m).dropWhile Char.isDigit = [] :=
    List.dropWhile_eq_nil_iff.mpr fun c => isDigit_of_mem_toDigits
  cases n with
  | ofNat m =>
    have written : numberText (.integer (.ofNat m)) = Nat.toDigits 10 m := Nat.toList_repr
    have signless : '-' ∉ Nat.toDigits 10 m := fun mem => by
      cases isDigit_of_mem_toDigits mem
    have unsigned : ∀ ds, Nat.toDigits 10 m ≠ '-' :: ds := fun ds signed =>
      signless (signed ▸ List.mem_cons_self)
    have first : (Nat.toDigits 10 m).head? ≠ some '-' := fun sign =>
      signless (List.mem_of_head? sign)
    rw [IsSpelled, written]
    simp [Token.number?, first, whole, nothing, isWhole_toDigits, digitsValue_toDigits,
      Token.isTail, Token.isExponent]
  | negSucc m =>
    have written : numberText (.integer (.negSucc m)) = '-' :: Nat.toDigits 10 (m + 1) := by
      show ("-" ++ (m + 1).repr).toList = _
      rw [String.toList_append, Nat.toList_repr]
      rfl
    rw [IsSpelled, written]
    simp [Token.number?, whole, nothing, isWhole_toDigits, digitsValue_toDigits, Token.isTail,
      Token.isExponent, Int.negSucc_eq]

theorem inNumber_of_isDigit {c : Char} (h : c.isDigit = true) : Token.inNumber c = true := by
  simp [Token.inNumber, h]

theorem inNumber_of_allDigits {ds : List Char} (h : Token.allDigits ds = true) :
    ∀ c ∈ ds, Token.inNumber c = true := by
  simp only [Token.allDigits, Bool.and_eq_true, List.all_eq_true] at h
  exact fun c mem => inNumber_of_isDigit (h.2 c mem)

theorem inNumber_of_isExponent {ds : List Char} (h : Token.isExponent ds = true) :
    ∀ c ∈ ds, Token.inNumber c = true := by
  cases ds with
  | nil => simp
  | cons e ds =>
    simp only [Token.isExponent, Bool.and_eq_true, Bool.or_eq_true, beq_iff_eq] at h
    obtain ⟨letter, rest⟩ := h
    refine List.forall_mem_cons.mpr ⟨by rcases letter with rfl | rfl <;> rfl, ?_⟩
    split at rest
    · exact List.forall_mem_cons.mpr ⟨rfl, inNumber_of_allDigits rest⟩
    · exact List.forall_mem_cons.mpr ⟨rfl, inNumber_of_allDigits rest⟩
    · exact inNumber_of_allDigits rest

theorem inNumber_of_isTail {ds : List Char} (h : Token.isTail ds = true) :
    ∀ c ∈ ds, Token.inNumber c = true := by
  unfold Token.isTail at h
  split at h
  · next ds =>
    obtain ⟨digits, exponent⟩ := Bool.and_eq_true_iff.mp h
    refine List.forall_mem_cons.mpr ⟨rfl, ?_⟩
    rw [← List.takeWhile_append_dropWhile (p := Char.isDigit) (l := ds), List.forall_mem_append]
    exact ⟨inNumber_of_allDigits digits, inNumber_of_isExponent exponent⟩
  · exact inNumber_of_isExponent h

/-- An unsigned number starts with a digit. -/
theorem starts_of_parts {ds : List Char} (whole : Token.isWhole (ds.takeWhile Char.isDigit) = true)
    (tail : Token.isTail (ds.dropWhile Char.isDigit) = true) :
    (∃ d rest, ds = d :: rest ∧ d.isDigit = true) ∧ ∀ c ∈ ds, Token.inNumber c = true := by
  obtain ⟨digits, -⟩ := Bool.and_eq_true_iff.mp whole
  constructor
  · cases ds with
    | nil => cases digits
    | cons d rest =>
      refine ⟨d, rest, rfl, ?_⟩
      by_cases digit : d.isDigit = true
      · exact digit
      · rw [List.takeWhile_cons_of_neg digit] at digits
        cases digits
  · rw [← List.takeWhile_append_dropWhile (p := Char.isDigit) (l := ds), List.forall_mem_append]
    exact ⟨inNumber_of_allDigits digits, inNumber_of_isTail tail⟩

theorem start?_of_isDigit {d : Char} (h : d.isDigit = true) :
    start? d = some ([], .inNumber [d]) := by
  have other : ∀ c : Char, c.isDigit = false → d ≠ c := by
    rintro c letter rfl
    rw [letter] at h
    cases h
  have space : Token.isSpace d = false := by
    simp [Token.isSpace, other ' ' rfl, other '\t' rfl, other '\n' rfl, other '\r' rfl]
  simp [start?, space, other '"' rfl, inNumber_of_isDigit h, other 'e' rfl, other 'E' rfl]

/-- A number that is read starts like one, and all its characters stand in numbers. -/
theorem starts_of_number? {n : Number} (h : Token.number? cs = some n) :
    (∃ c rest, cs = c :: rest ∧ start? c = some ([], .inNumber [c])) ∧
      ∀ c ∈ cs, Token.inNumber c = true := by
  unfold Token.number? at h
  extract_lets unsigned whole tail at h
  have proper : ¬ (!Token.isWhole whole || !Token.isTail tail) = true := by
    intro improper
    rw [if_pos improper] at h
    cases h
  simp only [Bool.or_eq_true, Bool.not_eq_true', not_or, Bool.not_eq_false] at proper
  obtain ⟨⟨d, rest, starts, digit⟩, inside⟩ := starts_of_parts proper.1 proper.2
  have signed : cs = '-' :: unsigned ∨ cs = unsigned := by
    simp only [unsigned]
    split
    · exact .inl rfl
    · exact .inr rfl
  obtain signed | signed := signed
  · rw [signed]
    exact ⟨⟨_, _, rfl, rfl⟩, List.forall_mem_cons.mpr ⟨rfl, inside⟩⟩
  · rw [signed]
    exact ⟨⟨d, rest, starts, start?_of_isDigit digit⟩, inside⟩

/-- What follows a value in a text: nothing, a comma or a closing bracket. -/
def Delimited : List Char → Prop
  | [] => True
  | c :: _ => c = ',' ∨ c = ']' ∨ c = '\x7d'

theorem delimited_comma (cs : List Char) : Delimited (',' :: cs) := Or.inl rfl

theorem delimited_bracket (cs : List Char) : Delimited (']' :: cs) := Or.inr (Or.inl rfl)

theorem delimited_brace (cs : List Char) : Delimited ('\x7d' :: cs) := Or.inr (Or.inr rfl)

/-- A literal is read back where it ends: the characters that may stand in it are collected, last
first, until there are no more. -/
theorem scanFrom?_literal {mode : List Char → Mode} {mayStand : Char → Bool} {t : Token} {c : Char}
    {rest : List Char}
    (collects : ∀ ds d more, mayStand d = true →
      scanFrom? ts (mode ds) (d :: more) = scanFrom? ts (mode (d :: ds)) more)
    (ends : scanFrom? ts (mode (c :: rest).reverse) cs = scanFrom? (t :: ts) .between cs)
    (starts : start? c = some ([], mode [c])) (inside : ∀ d ∈ rest, mayStand d = true) :
    scanFrom? ts .between (c :: rest ++ cs) = scanFrom? (t :: ts) .between cs := by
  have collected : ∀ ds, scanFrom? ts (mode ds) (rest ++ cs) =
      scanFrom? ts (mode (rest.reverse ++ ds)) cs := by
    clear ends
    induction rest with
    | nil => exact fun _ => rfl
    | cons d rest ih =>
      obtain ⟨first, later⟩ := List.forall_mem_cons.mp inside
      intro ds
      rw [List.cons_append, collects _ _ _ first, ih later, List.reverse_cons, List.append_assoc]
      rfl
  rw [List.cons_append, scanFrom?, starts]
  simp only [List.nil_append]
  rw [collected, ← ends, List.reverse_cons]

/-- A number is read back where it ends. -/
theorem scanFrom?_numberText {n : Number} (h : n.IsSpelled) (delimited : Delimited cs) :
    scanFrom? ts .between (numberText n ++ cs) = scanFrom? (.number n :: ts) .between cs := by
  obtain ⟨⟨c, rest, written, starts⟩, inside⟩ := starts_of_number? h
  rw [Number.IsSpelled, written] at h
  rw [written] at inside ⊢
  refine scanFrom?_literal (fun ds d more within => ?_) ?_ starts (List.forall_mem_cons.mp inside).2
  · rw [scanFrom?, if_pos within]
  · cases cs with
    | nil => simp only [scanFrom?, List.reverse_reverse, h, Option.map_some]
    | cons c cs =>
      obtain rfl | rfl | rfl := delimited <;>
        simp only [scanFrom?, List.reverse_reverse, h] <;> rfl

/-- A word is read back where it ends. -/
theorem scanFrom?_word {t : Token} {c : Char} {rest : List Char}
    (starts : start? c = some ([], .inWord [c])) (letters : rest.all Char.isAlpha = true)
    (h : Token.word? (c :: rest) = some t) (delimited : Delimited cs) :
    scanFrom? ts .between (c :: rest ++ cs) = scanFrom? (t :: ts) .between cs := by
  refine scanFrom?_literal (fun ds d more within => ?_) ?_ starts (List.all_eq_true.mp letters)
  · rw [scanFrom?, if_pos within]
  · cases cs with
    | nil => simp only [scanFrom?, List.reverse_reverse, h, Option.map_some]
    | cons c cs =>
      obtain rfl | rfl | rfl := delimited <;>
        simp only [scanFrom?, List.reverse_reverse, h] <;> rfl

/-! ## Tokens of a value -/

mutual

/-- The tokens that spell a value. -/
def tokens : Json → List Token
  | .null => [.null]
  | .bool b => [.bool b]
  | .number n => [.number n]
  | .string s => [.string s]
  | .array [] => [.openBracket, .closeBracket]
  | .array (x :: xs) => .openBracket :: (tokens x ++ itemTokens xs)
  | .object [] => [.openBrace, .closeBrace]
  | .object ((k, v) :: ms) => .openBrace :: .string k :: .colon :: (tokens v ++ memberTokens ms)

/-- The tokens from the end of an item on, with more items to come. -/
def itemTokens : List Json → List Token
  | [] => [.closeBracket]
  | x :: xs => .comma :: (tokens x ++ itemTokens xs)

/-- The tokens from the end of a member on, with more members to come. -/
def memberTokens : List (Option String × Json) → List Token
  | [] => [.closeBrace]
  | (k, v) :: ms => .comma :: .string k :: .colon :: (tokens v ++ memberTokens ms)

end

mutual

/-- Whether all numbers in a value are spelled as numbers are. -/
def IsSpelled : Json → Prop
  | .number n => n.IsSpelled
  | .array xs => ItemsSpelled xs
  | .object ms => MembersSpelled ms
  | _ => True

def ItemsSpelled : List Json → Prop
  | [] => True
  | x :: xs => x.IsSpelled ∧ ItemsSpelled xs

def MembersSpelled : List (Option String × Json) → Prop
  | [] => True
  | (_, v) :: ms => v.IsSpelled ∧ MembersSpelled ms

end

/-! ## From the text to the tokens -/

theorem scanFrom?_mark {c : Char} {t : Token} (h : start? c = some ([t], .between)) :
    scanFrom? ts .between (c :: cs) = scanFrom? (t :: ts) .between cs := by
  simp only [scanFrom?, h]
  rfl

mutual

/-- The text of a value is cut into the tokens of the value. -/
theorem scan_chars (j : Json) (spelled : j.IsSpelled) (ts : List Token) (cs : List Char)
    (delimited : Delimited cs) :
    scanFrom? ts .between (chars j ++ cs) =
      scanFrom? ((tokens j).reverse ++ ts) .between cs := by
  match j with
  | .null =>
    exact scanFrom?_word rfl rfl rfl delimited
  | .bool true => exact scanFrom?_word rfl rfl rfl delimited
  | .bool false => exact scanFrom?_word rfl rfl rfl delimited
  | .number n => exact scanFrom?_numberText spelled delimited
  | .string s => exact scanFrom?_stringText s
  | .array [] =>
    show scanFrom? ts .between ('[' :: ']' :: cs) = _
    rw [scanFrom?_mark rfl, scanFrom?_mark rfl]
    rfl
  | .object [] =>
    show scanFrom? ts .between ('\x7b' :: '\x7d' :: cs) = _
    rw [scanFrom?_mark rfl, scanFrom?_mark rfl]
    rfl
  | .array (x :: xs) =>
    rw [chars, List.append_assoc, List.cons_append, scanFrom?_mark rfl]
    rw [List.singleton_append, scan_items x xs spelled, tokens, List.reverse_cons,
      List.append_assoc]
    rfl
  | .object ((k, v) :: ms) =>
    rw [chars, List.append_assoc, List.cons_append, scanFrom?_mark rfl]
    rw [List.singleton_append, scan_members k v ms spelled, tokens]
    simp
termination_by sizeOf j

/-- The same for items, up to the end of their array. -/
theorem scan_items (x : Json) (xs : List Json) (spelled : ItemsSpelled (x :: xs))
    (ts : List Token) (cs : List Char) :
    scanFrom? ts .between (itemChars (x :: xs) ++ ']' :: cs) =
      scanFrom? ((tokens x ++ itemTokens xs).reverse ++ ts) .between cs := by
  match xs with
  | [] =>
    rw [itemChars, scan_chars x spelled.1 ts _ (delimited_bracket _), scanFrom?_mark rfl,
      itemTokens]
    simp
  | y :: ys =>
    rw [itemChars, List.append_assoc, List.cons_append,
      scan_chars x spelled.1 ts _ (delimited_comma _), scanFrom?_mark rfl,
      scan_items y ys spelled.2, itemTokens]
    · simp
    · simp
termination_by 1 + sizeOf x + sizeOf xs

/-- The same for members, up to the end of their object. -/
theorem scan_members (k : Option String) (v : Json) (ms : List (Option String × Json))
    (spelled : MembersSpelled ((k, v) :: ms)) (ts : List Token) (cs : List Char) :
    scanFrom? ts .between (memberChars ((k, v) :: ms) ++ '\x7d' :: cs) =
      scanFrom? ((.string k :: .colon :: (tokens v ++ memberTokens ms)).reverse ++ ts)
        .between cs := by
  match ms with
  | [] =>
    rw [memberChars, List.append_assoc, List.cons_append, scanFrom?_stringText, scanFrom?_mark rfl,
      scan_chars v spelled.1 _ _ (delimited_brace _), scanFrom?_mark rfl, memberTokens]
    simp
  | (k', v') :: ms =>
    rw [memberChars]
    · simp only [List.append_assoc, List.cons_append]
      rw [scanFrom?_stringText, scanFrom?_mark rfl,
        scan_chars v spelled.1 _ _ (delimited_comma _), scanFrom?_mark rfl,
        scan_members k' v' ms spelled.2, memberTokens]
      simp
    · simp
termination_by 1 + sizeOf v + sizeOf ms

end

/-! ## From the tokens to the value -/

/-- What tokens do that spell a value: the first of them starts it, and all of them build it up,
whatever is open around it. -/
def Builds (j : Json) : List Token → Prop
  | [] => False
  | t :: rest => t ≠ .closeBracket ∧ ∀ stack ts, ∃ goal inner,
      begin? stack t = some (goal, inner) ∧
        build? inner goal (rest ++ ts) = build? stack (.after j) ts

variable {j : Json} {stack : List Frame}

/-- Such tokens meet the goal of a value. -/
theorem Builds.value {spell : List Token} (h : Builds j spell) :
    build? stack .value (spell ++ ts) = build? stack (.after j) ts := by
  cases spell with
  | nil => exact h.elim
  | cons t rest =>
    obtain ⟨goal, inner, begins, built⟩ := h.2 stack ts
    rw [List.cons_append, build?, step?, begins]
    exact built

/-- Such tokens may come first in an array. -/
theorem Builds.firstItem {spell : List Token} (h : Builds j spell) :
    build? stack .firstItem (spell ++ ts) = build? (.array [] :: stack) (.after j) ts := by
  cases spell with
  | nil => exact h.elim
  | cons t rest =>
    obtain ⟨goal, inner, begins, built⟩ := h.2 (.array [] :: stack) ts
    have first : step? stack .firstItem t = some (goal, inner) := by
      rw [← begins]
      cases t <;> first | rfl | exact absurd rfl h.1
    rw [List.cons_append, build?, first]
    exact built

mutual

/-- The tokens of a value build it up. -/
theorem builds_tokens (j : Json) : Builds j (tokens j) := by
  match j with
  | .null | .bool _ | .number _ | .string _ =>
    rw [tokens]
    exact ⟨by simp, fun stack ts => ⟨_, stack, rfl, rfl⟩⟩
  | .array [] | .object [] =>
    rw [tokens]
    exact ⟨by simp, fun stack ts => ⟨_, stack, rfl, rfl⟩⟩
  | .array (x :: xs) =>
    rw [tokens]
    refine ⟨by simp, fun stack ts => ⟨.firstItem, stack, rfl, ?_⟩⟩
    rw [List.append_assoc, (builds_tokens x).firstItem, build_items xs]
    rfl
  | .object ((k, v) :: ms) =>
    rw [tokens]
    refine ⟨by simp, fun stack ts => ⟨.firstName, stack, rfl, ?_⟩⟩
    show build? (.object [] k :: stack) .value (tokens v ++ memberTokens ms ++ ts) = _
    rw [List.append_assoc, (builds_tokens v).value, build_members ms]
    rfl
termination_by sizeOf j

/-- The tokens after an item go on with the array around it. -/
theorem build_items (xs done : List Json) (x : Json) (stack : List Frame) (ts : List Token) :
    build? (.array done :: stack) (.after x) (itemTokens xs ++ ts) =
      build? stack (.after (.array ((x :: done).reverse ++ xs))) ts := by
  match xs with
  | [] =>
    rw [List.append_nil]
    rfl
  | y :: ys =>
    show build? (.array (x :: done) :: stack) .value (tokens y ++ itemTokens ys ++ ts) = _
    rw [List.append_assoc, (builds_tokens y).value, build_items ys, List.reverse_cons,
      List.append_assoc]
    rfl
termination_by sizeOf xs

/-- The tokens after a member go on with the object around it. -/
theorem build_members (ms done : List (Option String × Json)) (k : Option String) (v : Json)
    (stack : List Frame) (ts : List Token) :
    build? (.object done k :: stack) (.after v) (memberTokens ms ++ ts) =
      build? stack (.after (.object (((k, v) :: done).reverse ++ ms))) ts := by
  match ms with
  | [] =>
    rw [List.append_nil]
    rfl
  | (k', v') :: ms =>
    show build? (.object ((k, v) :: done) k' :: stack) .value
      (tokens v' ++ memberTokens ms ++ ts) = _
    rw [List.append_assoc, (builds_tokens v').value, build_members ms, List.reverse_cons,
      List.append_assoc]
    rfl
termination_by sizeOf ms

end

/-- The text of a value is read as the value. -/
theorem ofText?_toText (j : Json) (spelled : j.IsSpelled) : ofText? j.toText = some j := by
  have scanned := scan_chars j spelled [] [] trivial
  rw [List.append_nil, List.append_nil] at scanned
  rw [ofText?, toText, String.toList_ofList, Token.scan?, scanned, scanFrom?,
    List.reverse_reverse, Option.bind_some, ofTokens?]
  have built : build? [] .value (tokens j ++ []) = build? [] (.after j) [] :=
    (builds_tokens j).value
  rw [List.append_nil] at built
  exact built

end ReplicaPorts.Json
