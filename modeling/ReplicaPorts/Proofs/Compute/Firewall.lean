import ReplicaPorts.Compute.Firewall

/-!
# What firewalls let through

Texts are compared after both sides were put in order, and texts have one order only, so what is
compared is how often each of them is there (`mergeSort_eq_iff_perm`). A firewall is up to date for
some ports exactly if it lets TCP through on these ports, each as often as it is listed, and nothing
else (`Firewall.isStale_eq_false_iff`).
-/

set_option autoImplicit false

namespace ReplicaPorts.Compute

variable {f : Firewall} {ports ports' : List Int32}

/-! ## Texts in order -/

theorem pairwise_mergeSort_texts (texts : List String) : texts.mergeSort.Pairwise (· ≤ ·) := by
  refine (List.pairwise_mergeSort ?_ ?_ texts).imp of_decide_eq_true
  · intro a b c first second
    exact decide_eq_true (String.le_trans (of_decide_eq_true first) (of_decide_eq_true second))
  · intro a b
    simpa using String.le_total a b

/-- Texts come in one order only, so lists of them are put into the same order just if they hold
each text as often. -/
theorem mergeSort_eq_iff_perm {texts texts' : List String} :
    texts.mergeSort = texts'.mergeSort ↔ texts.Perm texts' := by
  constructor
  · intro same
    have sorted : texts.Perm texts.mergeSort := (List.mergeSort_perm _ _).symm
    rw [same] at sorted
    exact sorted.trans (List.mergeSort_perm _ _)
  · intro all
    have sorted : texts.mergeSort.Perm texts'.mergeSort :=
      (List.mergeSort_perm _ _).trans (all.trans (List.mergeSort_perm _ _).symm)
    exact sorted.eq_of_pairwise (fun _ _ _ _ => String.le_antisymm)
      (pairwise_mergeSort_texts _) (pairwise_mergeSort_texts _)

/-! ## Firewalls that are up to date -/

/-- A protocol is spelled `tcp`, each letter small or large. -/
def IsTcp (protocol : String) : Prop :=
  ∃ t c p, protocol.toList = [t, c, p] ∧ (t = 't' ∨ t = 'T') ∧ (c = 'c' ∨ c = 'C') ∧
    (p = 'p' ∨ p = 'P')

theorem val_toLower (c : Char) :
    c.toLower.val = if 'A' ≤ c ∧ c ≤ 'Z' then c.val + 32 else c.val := by
  by_cases large : 'A' ≤ c ∧ c ≤ 'Z'
  · exact (congrArg Char.val (dif_pos large)).trans (if_pos large).symm
  · exact (congrArg Char.val (dif_neg large)).trans (if_neg large).symm

/-- A small letter is made of itself and of its capital. -/
theorem toLower_eq_iff {c capital : Char} (large : 'A' ≤ capital ∧ capital ≤ 'Z') :
    c.toLower = capital.toLower ↔ c = capital.toLower ∨ c = capital := by
  grind [val_toLower, Char.le_def, Char.ext_iff, UInt32.le_iff_toNat_le, UInt32.toNat_inj]

theorem isTcp_iff {protocol : String} : isTcp protocol = true ↔ IsTcp protocol := by
  have t {d : Char} : d.toLower = 't' ↔ d = 't' ∨ d = 'T' :=
    @toLower_eq_iff d 'T' (by decide)
  have c {d : Char} : d.toLower = 'c' ↔ d = 'c' ∨ d = 'C' :=
    @toLower_eq_iff d 'C' (by decide)
  have p {d : Char} : d.toLower = 'p' ↔ d = 'p' ∨ d = 'P' :=
    @toLower_eq_iff d 'P' (by decide)
  simp only [isTcp, beq_iff_eq, List.map_eq_cons_iff, List.map_eq_nil_iff, t, c, p, IsTcp]
  constructor
  · rintro ⟨d, _, letters, first, e, _, rfl, second, f, _, rfl, third, rfl⟩
    exact ⟨d, e, f, letters, first, second, third⟩
  · rintro ⟨d, e, f, letters, first, second, third⟩
    exact ⟨d, _, letters, first, e, _, rfl, second, f, _, rfl, third, rfl⟩

/-- A firewall lets TCP through on some ports, each as often as it is listed, and nothing else. -/
def Firewall.Admits (f : Firewall) (ports : List Int32) : Prop :=
  ∃ clause protocol, f.allowed = [clause] ∧ clause.protocol = some protocol ∧ IsTcp protocol ∧
    clause.ports.Perm (ports.map fun n => toString n.toInt)

/-- A firewall is up to date exactly if it lets through what it should. -/
theorem Firewall.isStale_eq_false_iff : f.isStale ports = false ↔ f.Admits ports := by
  unfold isStale
  split
  · next clause sole =>
    rw [Bool.not_eq_false', Bool.and_eq_true, Option.any_eq_true, beq_iff_eq, portTexts,
      mergeSort_eq_iff_perm]
    constructor
    · rintro ⟨⟨protocol, given, tcp⟩, texts⟩
      exact ⟨clause, protocol, sole, given, isTcp_iff.mp tcp, texts⟩
    · rintro ⟨clause', protocol, sole', given, tcp, texts⟩
      obtain rfl := (List.cons.inj (sole.symm.trans sole')).1
      exact ⟨⟨protocol, given, isTcp_iff.mpr tcp⟩, texts⟩
  · next other =>
    refine iff_of_false nofun ?_
    rintro ⟨clause, protocol, sole, -⟩
    exact other clause sole

theorem Firewall.Admits.perm (h : f.Admits ports) (same : ports.Perm ports') : f.Admits ports' := by
  obtain ⟨clause, protocol, sole, given, tcp, texts⟩ := h
  exact ⟨clause, protocol, sole, given, tcp, texts.trans (same.map _)⟩

theorem Firewall.admits_of_allowing (h : f.allowed = allowing ports) : f.Admits ports :=
  ⟨_, _, h, rfl, isTcp_iff.mp (by decide), List.mergeSort_perm _ _⟩

/-- A firewall with the allow clauses for some ports is up to date for them. -/
theorem Firewall.isStale_allowing (h : f.allowed = allowing ports) : f.isStale ports = false :=
  isStale_eq_false_iff.mpr (admits_of_allowing h)

end ReplicaPorts.Compute
