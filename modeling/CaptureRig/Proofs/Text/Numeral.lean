import CaptureRig.Proofs.Text.Digits
import Mathlib.Data.List.Basic
import Mathlib.Data.List.TakeWhile

namespace CaptureRig.Text

/-- Digits, perhaps after a plus sign and with blanks around, and the number that they stand for. -/
inductive Numeral : List Char → Nat → Prop
  | intro {before sign digits after : List Char} (blankBefore : ∀ c ∈ before, isBlank c = true)
      (signed : sign = [] ∨ sign = ['+']) (filled : digits ≠ []) (digital : ∀ c ∈ digits, c.isDigit = true)
      (blankAfter : ∀ c ∈ after, isBlank c = true) :
      Numeral (before ++ (sign ++ digits) ++ after) (Nat.ofDigitChars 10 digits 0)

theorem trimmed_split (cs : List Char) :
    ∃ before after, cs = before ++ trimmed cs ++ after ∧ (∀ c ∈ before, isBlank c = true) ∧
      ∀ c ∈ after, isBlank c = true := by
  have front : cs = cs.takeWhile isBlank ++ cs.dropWhile isBlank := List.takeWhile_append_dropWhile.symm
  have back : cs.dropWhile isBlank = trimmed cs ++ ((cs.dropWhile isBlank).reverse.takeWhile isBlank).reverse := by
    rw [trimmed, dropEnd, ← List.reverse_append, List.takeWhile_append_dropWhile, List.reverse_reverse]
  refine ⟨cs.takeWhile isBlank, ((cs.dropWhile isBlank).reverse.takeWhile isBlank).reverse, ?_, ?_, ?_⟩
  · rw [List.append_assoc, ← back]
    exact front
  · exact fun c member => List.mem_takeWhile_imp member
  · exact fun c member => List.mem_takeWhile_imp (List.mem_reverse.mp member)

theorem dropWhile_of_blank {before core : List Char} (blank : ∀ c ∈ before, isBlank c = true)
    (first : ∀ c ∈ core.head?, isBlank c = false) : (before ++ core).dropWhile isBlank = core := by
  induction before with
  | nil =>
    cases core with
    | nil => rfl
    | cons c rest => simp [first c rfl]
  | cons c before ih =>
    have here := blank c List.mem_cons_self
    rw [List.cons_append, List.dropWhile_cons, if_pos here]
    exact ih fun c member => blank c (List.mem_cons_of_mem _ member)

/-- What begins and ends with no blank is left when the blanks around it are taken away. -/
theorem trimmed_between {before core after : List Char} (blankBefore : ∀ c ∈ before, isBlank c = true)
    (first : ∀ c ∈ core.head?, isBlank c = false) (last : ∀ c ∈ core.getLast?, isBlank c = false)
    (filled : core ≠ []) (blankAfter : ∀ c ∈ after, isBlank c = true) : trimmed (before ++ core ++ after) = core := by
  have front : (before ++ core ++ after).dropWhile isBlank = core ++ after := by
    rw [List.append_assoc]
    refine dropWhile_of_blank blankBefore fun c member => first c ?_
    rwa [List.head?_append_of_ne_nil core filled] at member
  have back : (core ++ after).reverse.dropWhile isBlank = core.reverse := by
    rw [List.reverse_append]
    refine dropWhile_of_blank (fun c member => blankAfter c (List.mem_reverse.mp member)) fun c member => last c ?_
    rwa [List.head?_reverse] at member
  rw [trimmed, front, dropEnd, back, List.reverse_reverse]

theorem isDigit_of_decimalValue? {c : Char} {n : Nat} (read : decimalValue? c = some n) : c.isDigit = true := by
  unfold decimalValue? at read
  dsimp only at read
  split at read
  · rename_i range
    simpa [Char.isDigit, UInt32.le_iff_toNat_le] using range
  · cases read

theorem isDigit_of_digitsValue? {cs : List Char} {n : Nat} (read : digitsValue? decimalValue? 10 cs = some n) :
    cs ≠ [] ∧ ∀ c ∈ cs, c.isDigit = true := by
  have each : ∀ (cs : List Char) (total : Nat),
      cs.foldlM (fun total c => (decimalValue? c).map (total * 10 + ·)) total = some n → ∀ c ∈ cs, c.isDigit = true := by
    intro cs
    induction cs with
    | nil => intro _ _ c member; cases member
    | cons c rest ih =>
      intro total run
      rw [List.foldlM_cons] at run
      obtain ⟨next, first, others⟩ := Option.bind_eq_some_iff.mp run
      obtain ⟨value, digit, _⟩ := Option.map_eq_some_iff.mp first
      exact List.forall_mem_cons.mpr ⟨isDigit_of_decimalValue? digit, ih next others⟩
  cases cs with
  | nil => cases read
  | cons c rest => exact ⟨List.cons_ne_nil c rest, each (c :: rest) 0 read⟩

theorem digitsValue?_eq_some {cs : List Char} {n : Nat} :
    digitsValue? decimalValue? 10 cs = some n ↔
      cs ≠ [] ∧ (∀ c ∈ cs, c.isDigit = true) ∧ Nat.ofDigitChars 10 cs 0 = n := by
  constructor
  · intro read
    obtain ⟨filled, digital⟩ := isDigit_of_digitsValue? read
    exact ⟨filled, digital, Option.some.inj ((digitsValue?_of_digits filled digital).symm.trans read)⟩
  · rintro ⟨filled, digital, rfl⟩
    exact digitsValue?_of_digits filled digital

/-- A number is read off exactly the signed or unsigned runs of digits for numbers below the bound. -/
theorem natural?_eq_some {bound n : Nat} {cs : List Char} :
    natural? decimalValue? 10 bound cs = some n ↔
      ∃ sign digits, cs = sign ++ digits ∧ (sign = [] ∨ sign = ['+']) ∧
        digitsValue? decimalValue? 10 digits = some n ∧ n < bound := by
  have bounded : ∀ digits, ((digitsValue? decimalValue? 10 digits).bind fun n => if n < bound then some n else none) =
      some n ↔ digitsValue? decimalValue? 10 digits = some n ∧ n < bound := by
    intro digits
    rw [Option.bind_eq_some_iff]
    constructor
    · rintro ⟨value, read, checked⟩
      split at checked
      · rename_i below
        cases checked
        exact ⟨read, below⟩
      · cases checked
    · rintro ⟨read, below⟩
      exact ⟨n, read, if_pos below⟩
  unfold natural?
  dsimp only
  rw [bounded]
  constructor
  · intro read
    split at read
    · rename_i rest
      exact ⟨['+'], rest, rfl, Or.inr rfl, read⟩
    · exact ⟨[], cs, rfl, Or.inl rfl, read⟩
  · rintro ⟨sign, digits, rfl, rfl | rfl, read, below⟩
    · rw [List.nil_append]
      split
      · -- no run of digits begins with a sign
        rename_i rest
        have digit := (isDigit_of_digitsValue? read).2 '+' List.mem_cons_self
        cases digit
      · exact ⟨read, below⟩
    · exact ⟨read, below⟩

theorem isBlank_of_numeral {sign digits : List Char} (signed : sign = [] ∨ sign = ['+'])
    (digital : ∀ c ∈ digits, c.isDigit = true) {c : Char} (member : c ∈ sign ++ digits) : isBlank c = false := by
  rcases List.mem_append.mp member with inSign | inDigits
  · rcases signed with rfl | rfl
    · cases inSign
    · cases List.mem_singleton.mp inSign
      rfl
  · exact isBlank_of_isDigit (digital c inDigits)

/-- A trimmed text is read as a number exactly if it is a numeral for that number, and the number is below the bound. -/
theorem natural?_trimmed_eq_some {bound n : Nat} {cs : List Char} :
    natural? decimalValue? 10 bound (trimmed cs) = some n ↔ Numeral cs n ∧ n < bound := by
  rw [natural?_eq_some]
  constructor
  · rintro ⟨sign, digits, core, signed, read, below⟩
    obtain ⟨before, after, whole, blankBefore, blankAfter⟩ := trimmed_split cs
    obtain ⟨filled, digital, value⟩ := digitsValue?_eq_some.mp read
    rw [whole, core, ← value]
    exact ⟨.intro blankBefore signed filled digital blankAfter, value ▸ below⟩
  · rintro ⟨numeral, below⟩
    cases numeral with
    | @intro before sign digits after blankBefore signed filled digital blankAfter =>
      have solid : ∀ c ∈ sign ++ digits, isBlank c = false := fun c => isBlank_of_numeral signed digital
      refine ⟨sign, digits, ?_, signed, digitsValue?_of_digits filled digital, below⟩
      refine trimmed_between blankBefore (fun c first => solid c ?_) (fun c last => solid c ?_) ?_ blankAfter
      · exact List.mem_of_head? first
      · exact List.mem_of_getLast? last
      · exact List.append_ne_nil_of_right_ne_nil _ filled

end CaptureRig.Text
