import CaptureRig.Chunk.Name
import CaptureRig.Text.Blank

namespace CaptureRig.Text

theorem toList_padded (width n : Nat) :
    (padded width n).toList = List.replicate (width - (Nat.toDigits 10 n).length) '0' ++ Nat.toDigits 10 n :=
  String.toList_ofList

theorem isDigit_of_mem_toDigits {n : Nat} {c : Char} (member : c ∈ Nat.toDigits 10 n) : c.isDigit = true :=
  Nat.isDigit_of_mem_toDigits (by decide) (by decide) member

theorem isDigit_of_mem_toString {n : Nat} {c : Char} (member : c ∈ (toString n).toList) : c.isDigit = true := by
  rw [Nat.toString_eq_repr, Nat.toList_repr] at member
  exact isDigit_of_mem_toDigits member

theorem isDigit_of_mem_padded {width n : Nat} {c : Char} (member : c ∈ (padded width n).toList) : c.isDigit = true := by
  rw [toList_padded] at member
  rcases List.mem_append.mp member with zero | digit
  · rw [List.eq_of_mem_replicate zero]
    rfl
  · exact isDigit_of_mem_toDigits digit

/-- There is a first digit. -/
theorem padded_cons (width n : Nat) : ∃ d ds, (padded width n).toList = d :: ds ∧ d.isDigit = true := by
  have some : (padded width n).toList ≠ [] := by
    rw [toList_padded]
    exact List.append_ne_nil_of_right_ne_nil _ Nat.toDigits_ne_nil
  obtain ⟨d, ds, front⟩ := List.exists_cons_of_ne_nil some
  exact ⟨d, ds, front, isDigit_of_mem_padded (front ▸ List.mem_cons_self)⟩

theorem value_padded (width n : Nat) : Nat.ofDigitChars 10 (padded width n).toList 0 = n := by
  rw [toList_padded, Nat.ofDigitChars_append, Nat.ofDigitChars_replicate_zero, Nat.mul_zero,
    Nat.ofDigitChars_ten_toDigits]

theorem padded_injective {width i j : Nat} (same : padded width i = padded width j) : i = j := by
  rw [← value_padded width i, same, value_padded]

theorem toString_injective {i j : Nat} (same : toString i = toString j) : i = j := by
  have digits : Nat.toDigits 10 i = Nat.toDigits 10 j := by
    rw [← Nat.toList_repr, ← Nat.toList_repr, ← Nat.toString_eq_repr, ← Nat.toString_eq_repr, same]
  rw [← Nat.ofDigitChars_ten_toDigits (n := i), digits, Nat.ofDigitChars_ten_toDigits]

theorem takeWhile_run {p : Char → Bool} {run rest : List Char} (inside : ∀ c ∈ run, p c = true)
    (ends : ∀ c ∈ rest.head?, p c = false) : (run ++ rest).takeWhile p = run := by
  rw [List.takeWhile_append_of_pos inside]
  cases rest with
  | nil => rw [List.takeWhile_nil, List.append_nil]
  | cons c rest => rw [List.takeWhile_cons_of_neg (by rw [ends c rfl]; exact Bool.false_ne_true), List.append_nil]

/-- What belongs to a class can be told from what follows, if that does not begin with the class. -/
theorem run_cut {p : Char → Bool} {run run' rest rest' : List Char} (inside : ∀ c ∈ run, p c = true)
    (inside' : ∀ c ∈ run', p c = true) (ends : ∀ c ∈ rest.head?, p c = false) (ends' : ∀ c ∈ rest'.head?, p c = false)
    (same : run ++ rest = run' ++ rest') : run = run' ∧ rest = rest' := by
  have front : run = run' := by rw [← takeWhile_run inside ends, same, takeWhile_run inside' ends']
  exact ⟨front, List.append_cancel_left (front ▸ same)⟩

/-- What belongs to a class can be told from what comes before, if that does not end with the class. -/
theorem tail_cut {p : Char → Bool} {front front' tail tail' : List Char} (inside : ∀ c ∈ tail, p c = true)
    (inside' : ∀ c ∈ tail', p c = true) (ends : ∀ c ∈ front.getLast?, p c = false)
    (ends' : ∀ c ∈ front'.getLast?, p c = false) (same : front ++ tail = front' ++ tail') :
    front = front' ∧ tail = tail' := by
  have turned : tail.reverse ++ front.reverse = tail'.reverse ++ front'.reverse := by
    rw [← List.reverse_append, ← List.reverse_append, same]
  obtain ⟨tails, fronts⟩ := run_cut (fun c member => inside c (List.mem_reverse.mp member))
    (fun c member => inside' c (List.mem_reverse.mp member)) (by rwa [List.head?_reverse])
    (by rwa [List.head?_reverse]) turned
  exact ⟨List.reverse_inj.mp fronts, List.reverse_inj.mp tails⟩

/-- Digits that something else follows can be told from it. -/
theorem digits_cut {ds ds' rest rest' : List Char} {c c' : Char} (digits : ∀ d ∈ ds, d.isDigit = true)
    (digits' : ∀ d ∈ ds', d.isDigit = true) (ends : c.isDigit = false) (ends' : c'.isDigit = false)
    (same : ds ++ c :: rest = ds' ++ c' :: rest') : ds = ds' ∧ c :: rest = c' :: rest' :=
  run_cut digits digits' (fun _ first => Option.some.inj first ▸ ends) (fun _ first => Option.some.inj first ▸ ends') same

theorem toNat_of_isDigit {c : Char} (digit : c.isDigit = true) : 48 ≤ c.toNat ∧ c.toNat ≤ 57 := by
  simpa [Char.isDigit, UInt32.le_iff_toNat_le] using digit

theorem decimalValue?_of_isDigit {c : Char} (digit : c.isDigit = true) :
    decimalValue? c = some (c.toNat - '0'.toNat) :=
  if_pos (toNat_of_isDigit digit)

/-- A run of digits is read as the number it stands for. -/
theorem digitsValue?_of_digits {cs : List Char} (some : cs ≠ []) (digits : ∀ c ∈ cs, c.isDigit = true) :
    digitsValue? decimalValue? 10 cs = Option.some (Nat.ofDigitChars 10 cs 0) := by
  have read : ∀ (cs : List Char) (total : Nat), (∀ c ∈ cs, c.isDigit = true) →
      cs.foldlM (fun total c => (decimalValue? c).map (total * 10 + ·)) total =
        Option.some (Nat.ofDigitChars 10 cs total) := by
    intro cs
    induction cs with
    | nil => intro total _; rfl
    | cons c rest ih =>
      intro total digits
      rw [List.foldlM_cons, decimalValue?_of_isDigit (digits c (List.mem_cons_self ..)), Nat.ofDigitChars_cons,
        Nat.mul_comm 10 total]
      exact ih _ fun c member => digits c (List.mem_cons_of_mem _ member)
  cases cs with
  | nil => exact absurd rfl some
  | cons c rest => exact read (c :: rest) 0 digits

theorem isBlank_of_isDigit {c : Char} (digit : c.isDigit = true) : isBlank c = false := by
  have range := toNat_of_isDigit digit
  simp only [isBlank, Bool.or_eq_false_iff, Bool.and_eq_false_iff, decide_eq_false_iff_not, beq_eq_false_iff_ne]
  omega

theorem dropWhile_of_false {α : Type} {drop : α → Bool} {xs : List α} (kept : ∀ x ∈ xs, drop x = false) :
    xs.dropWhile drop = xs := by
  cases xs with
  | nil => rfl
  | cons x rest => rw [List.dropWhile_cons, kept x (List.mem_cons_self ..), if_neg Bool.false_ne_true]

theorem trimmed_line {cs : List Char} (some : cs ≠ []) (filled : ∀ c ∈ cs, isBlank c = false) :
    trimmed (cs ++ ['\n']) = cs := by
  have first : (cs ++ ['\n']).dropWhile isBlank = cs ++ ['\n'] := by
    cases cs with
    | nil => exact absurd rfl some
    | cons c rest =>
      rw [List.cons_append, List.dropWhile_cons, filled c (List.mem_cons_self ..), if_neg Bool.false_ne_true]
  have last : (cs ++ ['\n']).reverse.dropWhile isBlank = cs.reverse := by
    rw [List.reverse_append]
    exact dropWhile_of_false fun c member => filled c (List.mem_reverse.mp member)
  rw [trimmed, first, dropEnd, last, List.reverse_reverse]

/-- A number is read back from its digits. -/
theorem natural?_toDigits {n bound : Nat} (below : n < bound) :
    natural? decimalValue? 10 bound (Nat.toDigits 10 n) = some n := by
  have value := digitsValue?_of_digits (Nat.toDigits_ne_nil (n := n) (b := 10)) fun c member =>
    isDigit_of_mem_toDigits member
  rw [Nat.ofDigitChars_ten_toDigits] at value
  unfold natural?
  split
  · rename_i rest sign
    have digit : '+'.isDigit = true := isDigit_of_mem_toDigits (n := n) (by rw [sign]; exact List.mem_cons_self ..)
    cases digit
  · dsimp only
    rw [value]
    exact if_pos below

/-- A number is read back from a line that holds it. -/
theorem natural?_line {n bound : Nat} (below : n < bound) :
    natural? decimalValue? 10 bound (trimmed (toString n ++ "\n").toList) = some n := by
  have line : (toString n ++ "\n").toList = Nat.toDigits 10 n ++ ['\n'] := by
    rw [String.toList_append, Nat.toString_eq_repr, Nat.toList_repr]
    rfl
  rw [line, trimmed_line Nat.toDigits_ne_nil fun c member => isBlank_of_isDigit (isDigit_of_mem_toDigits member)]
  exact natural?_toDigits below

end CaptureRig.Text
