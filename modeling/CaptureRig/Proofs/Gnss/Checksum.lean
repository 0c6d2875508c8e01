import CaptureRig.Gnss.Sentence
import CaptureRig.Proofs.Text.Numeral
import CaptureRig.Proofs.Text.Utf8

namespace CaptureRig.Gnss

open Text

/-- The characters of ASCII but the zero character. -/
def Plain (c : Char) : Prop := 0 < c.toNat ∧ c.toNat < 128

instance : DecidablePred Plain := fun c => inferInstanceAs (Decidable (0 < c.toNat ∧ c.toNat < 128))

section Sum

theorem foldl_xor (bytes : List UInt8) (start : UInt8) :
    bytes.foldl (· ^^^ ·) start = start ^^^ bytes.foldl (· ^^^ ·) 0 := by
  induction bytes generalizing start with
  | nil => exact UInt8.xor_zero.symm
  | cons b bytes ih => rw [List.foldl_cons, List.foldl_cons, ih, ih (0 ^^^ b), UInt8.zero_xor, UInt8.xor_assoc]

theorem eq_zero_of_xor {a b : UInt8} (same : a ^^^ b = b) : a = 0 :=
  UInt8.xor_left_inj b |>.mp (same.trans UInt8.zero_xor.symm)

theorem checksum_append (a b : List Char) : checksum (a ++ b) = checksum a ^^^ checksum b := by
  rw [checksum, Utf8.encode_append, List.foldl_append, foldl_xor]
  rfl

theorem checksum_cons (c : Char) (cs : List Char) : checksum (c :: cs) = checksum [c] ^^^ checksum cs :=
  checksum_append [c] cs

theorem toNat_checksum {c : Char} (plain : Plain c) : (checksum [c]).toNat = c.toNat := by
  have whole : checksum [c] = 0 ^^^ UInt8.ofNat c.toNat := by
    rw [checksum, Utf8.encode, List.flatMap_singleton, Utf8.encodeChar_ascii plain.2]
    rfl
  rw [whole, UInt8.zero_xor, Utf8.toNat_byte (by have := plain.2; omega)]

theorem checksum_injective {c d : Char} (plain : Plain c) (plain' : Plain d) (same : checksum [c] = checksum [d]) :
    c = d := by
  have codes : c.toNat = d.toNat := by rw [← toNat_checksum plain, same, toNat_checksum plain']
  rw [← Char.ofNat_toNat c, codes, Char.ofNat_toNat]

/-- A sum tells one character if all others are known. -/
theorem checksum_replace {front back : List Char} {old new : Char} :
    checksum (front ++ new :: back) = checksum (front ++ old :: back) ↔ checksum [new] = checksum [old] := by
  rw [checksum_append, checksum_append, checksum_cons new, checksum_cons old, UInt8.xor_right_inj, UInt8.xor_left_inj]

/-- Equal characters cancel each other in pairs. -/
theorem checksum_replicate (c : Char) (n : Nat) :
    checksum (List.replicate n c) = 0 ∨ checksum (List.replicate n c) = checksum [c] := by
  induction n with
  | zero => exact Or.inl rfl
  | succ n ih =>
    rw [List.replicate_succ, checksum_cons]
    rcases ih with even | odd
    · exact Or.inr (by rw [even, UInt8.xor_zero])
    · exact Or.inl (by rw [odd, UInt8.xor_self])

/-- Skipping dollar signs leaves the sum as it is or takes one dollar sign from it. -/
theorem checksum_skipped (cs : List Char) :
    checksum cs = checksum (cs.dropWhile (· == '$')) ∨
      checksum cs = checksum ['$'] ^^^ checksum (cs.dropWhile (· == '$')) := by
  have signs : cs.takeWhile (· == '$') = List.replicate (cs.takeWhile (· == '$')).length '$' :=
    List.eq_replicate_of_mem fun c member => by
      have sign := List.mem_takeWhile_imp member
      exact eq_of_beq sign
  have parts : checksum cs = checksum (cs.takeWhile (· == '$')) ^^^ checksum (cs.dropWhile (· == '$')) := by
    rw [← checksum_append, List.takeWhile_append_dropWhile]
  rw [signs] at parts
  rcases checksum_replicate '$' (cs.takeWhile (· == '$')).length with even | odd
  · rw [even, UInt8.zero_xor] at parts
    exact Or.inl parts
  · rw [odd] at parts
    exact Or.inr parts

end Sum

section Field

theorem hexValue?_lt {c : Char} {n : Nat} (digit : hexValue? c = some n) : n < 16 := by
  unfold hexValue? at digit
  dsimp only at digit
  split at digit
  · simp only [Option.some.injEq] at digit
    omega
  split at digit
  · simp only [Option.some.injEq] at digit
    omega
  split at digit
  · simp only [Option.some.injEq] at digit
    omega
  · cases digit

/-- Digits are neither blanks nor signs. -/
theorem toNat_of_hexValue? {c : Char} {n : Nat} (digit : hexValue? c = some n) : 48 ≤ c.toNat ∧ c.toNat ≤ 102 := by
  unfold hexValue? at digit
  dsimp only at digit
  split at digit
  · omega
  split at digit
  · omega
  split at digit
  · omega
  · cases digit

theorem isBlank_of_hexValue? {c : Char} {n : Nat} (digit : hexValue? c = some n) : isBlank c = false := by
  have range := toNat_of_hexValue? digit
  simp only [isBlank, Bool.or_eq_false_iff, Bool.and_eq_false_iff, decide_eq_false_iff_not, beq_eq_false_iff_ne]
  omega

theorem ne_of_hexValue? {c d : Char} {n : Nat} (digit : hexValue? c = some n) (sign : d.toNat < 48) : c ≠ d := by
  have range := toNat_of_hexValue? digit
  rintro rfl
  omega

theorem checksumField?_digits {d e : Char} {m n : Nat} (high : hexValue? d = some m) (low : hexValue? e = some n) :
    checksumField? [d, e] = some (16 * m + n) := by
  have unsigned : d ≠ '+' := ne_of_hexValue? high (by decide)
  have value : digitsValue? hexValue? 16 [d, e] = some (16 * m + n) := by
    simp only [digitsValue?, List.foldlM_cons, List.foldlM_nil, high, low, Option.map_some, Option.bind_eq_bind,
      Option.bind_some, Option.pure_def, Option.some.injEq]
    omega
  have below : 16 * m + n < 256 := by
    have := hexValue?_lt high
    have := hexValue?_lt low
    omega
  unfold checksumField? natural?
  split
  · rename_i rest sign
    exact absurd (List.cons.inj sign).1 unsigned
  · dsimp only
    rw [value]
    exact if_pos below

/-- A digit below sixteen, with capitals. -/
def upperDigit (n : Nat) : Char := (Nat.digitChar n).toUpper

theorem hexValue?_upperDigit {n : Nat} (small : n < 16) : hexValue? (upperDigit n) = some n := by
  have each : ∀ n : Fin 16, hexValue? (upperDigit n) = some n.val := by decide
  exact each ⟨n, small⟩

/-- A byte is written with two digits. -/
theorem upperHex_byte {n : Nat} (byte : n < 256) : upperHex n = [upperDigit (n / 16), upperDigit (n % 16)] := by
  have digits : List.replicate (2 - (Nat.toDigits 16 n).length) '0' ++ Nat.toDigits 16 n =
      [Nat.digitChar (n / 16), Nat.digitChar (n % 16)] := by
    by_cases small : n < 16
    · rw [Nat.toDigits_of_lt_base small, Nat.div_eq_of_lt small, Nat.mod_eq_of_lt small]
      rfl
    · rw [Nat.toDigits_of_base_le (by decide) (by omega), Nat.toDigits_of_lt_base (by omega : n / 16 < 16)]
      rfl
  rw [upperHex, hex, String.toList_ofList, digits]
  rfl

end Field

theorem cutAtStar?_append {sum : List Char} (last : '*' ∉ sum) (data : List Char) :
    cutAtStar? (data ++ '*' :: sum) = some (data, sum) := by
  have none : cutAtStar? sum = none := by
    induction sum with
    | nil => rfl
    | cons c rest ih =>
      obtain ⟨other, later⟩ := not_or.mp (mt List.mem_cons.mpr last)
      rw [cutAtStar?, ih later]
      exact if_neg fun star => other star.symm
  induction data with
  | nil =>
    rw [List.nil_append, cutAtStar?, none]
    exact if_pos rfl
  | cons c data ih => rw [List.cons_append, cutAtStar?, ih]

/-- A sentence is accepted if the digits of its field tell the sum of its data, without the dollar signs in front. -/
theorem checksumHolds_framed {before data after : List Char} (blankBefore : ∀ c ∈ before, isBlank c = true)
    (blankAfter : ∀ c ∈ after, isBlank c = true) {d e : Char} {m n : Nat} (high : hexValue? d = some m)
    (low : hexValue? e = some n) :
    checksumHolds (before ++ ('$' :: data ++ ['*', d, e]) ++ after) =
      decide (16 * m + n = (checksum (data.dropWhile (· == '$'))).toNat) := by
  have bare : trimmed (before ++ ('$' :: data ++ ['*', d, e]) ++ after) = '$' :: data ++ ['*', d, e] := by
    refine trimmed_between blankBefore (fun c first => ?_) (fun c last => ?_) (by simp) blankAfter
    · cases Option.some.inj first
      rfl
    · rw [List.getLast?_append, Option.mem_def] at last
      cases Option.some.inj last
      exact isBlank_of_hexValue? low
  have skipped : ('$' :: data ++ ['*', d, e]).dropWhile (· == '$') = data.dropWhile (· == '$') ++ ['*', d, e] := by
    have star : (['*', d, e] : List Char).dropWhile (· == '$') = ['*', d, e] := rfl
    rw [List.cons_append, List.dropWhile_cons_of_pos rfl, List.dropWhile_append, star]
    split
    · rename_i none
      rw [List.isEmpty_iff.mp none, List.nil_append]
    · rfl
  have starless : '*' ∉ [d, e] := by
    have first := ne_of_hexValue? high (d := '*') (by decide)
    have second := ne_of_hexValue? low (d := '*') (by decide)
    simp [first.symm, second.symm]
  rw [checksumHolds, bare, skipped, cutAtStar?_append starless]
  dsimp only
  rw [checksumField?_digits high low]
  exact Bool.eq_iff_iff.mpr (by rw [beq_iff_eq, decide_eq_true_iff, eq_comm])

theorem dropWhile_unsigned {data : List Char} (begins : data.head? ≠ some '$') :
    data.dropWhile (· == '$') = data := by
  cases data with
  | nil => rfl
  | cons c rest =>
    have other : ¬(c == '$') = true := fun sign => begins (congrArg some (eq_of_beq sign))
    exact List.dropWhile_cons_of_neg other

/-- A character in another's place changes the sum of what is looked at, even if it is skipped itself with all dollar signs
after it. -/
theorem checksum_dropWhile_replaced {front back : List Char} {old new : Char} (plain : Plain old)
    (begins : (front ++ old :: back).head? ≠ some '$') (plain' : Plain new) (differ : new ≠ old) :
    checksum ((front ++ new :: back).dropWhile (· == '$')) ≠ checksum (front ++ old :: back) := by
  by_cases kept : (front ++ new :: back).head? = some '$'
  · -- Only the first character can be the one that is new.
    have first : front = [] := by
      cases front with
      | nil => rfl
      | cons c rest => exact absurd kept begins
    subst first
    obtain rfl : new = '$' := Option.some.inj kept
    have zero : checksum [old] ≠ 0 := fun zero => by
      have code := toNat_checksum plain
      rw [zero] at code
      exact absurd code.symm (Nat.ne_of_gt plain.1)
    have sign : checksum [old] ≠ checksum ['$'] := fun same => differ (checksum_injective plain plain' same).symm
    rw [List.nil_append, List.dropWhile_cons_of_pos rfl, List.nil_append, checksum_cons old]
    intro same
    rcases checksum_skipped back with even | odd
    · rw [even] at same
      exact zero (eq_zero_of_xor same.symm)
    · rw [odd, ← UInt8.xor_assoc] at same
      exact sign (UInt8.xor_eq_zero_iff.mp (eq_zero_of_xor same.symm))
  · rw [dropWhile_unsigned kept, ne_eq, checksum_replace]
    exact fun same => differ (checksum_injective plain' plain same)

theorem plain_of_all {cs : List Char} (all : cs.all (fun c => decide (Plain c)) = true) : ∀ c ∈ cs, Plain c :=
  fun c member => of_decide_eq_true (List.all_eq_true.mp all c member)

theorem head?_simulatedData (step : Nat) : (simulatedData step).head? = some 'G' := by
  simp [simulatedData]

theorem checksumHolds_sentence {before data after : List Char} (begins : data.head? ≠ some '$')
    (blankBefore : ∀ c ∈ before, isBlank c = true) (blankAfter : ∀ c ∈ after, isBlank c = true) :
    checksumHolds (before ++ sentence data ++ after) = true := by
  have byte := (checksum data).toNat_lt
  have high := hexValue?_upperDigit (by omega : (checksum data).toNat / 16 < 16)
  have low := hexValue?_upperDigit (by omega : (checksum data).toNat % 16 < 16)
  rw [sentence, upperHex_byte byte, checksumHolds_framed blankBefore blankAfter high low, dropWhile_unsigned begins,
    decide_eq_true_iff]
  omega

/-- A sentence with data in ASCII that do not begin with a dollar sign is accepted with the sum of the data in its field,
whatever blanks are around it. It is refused as soon as one character of the data is another of ASCII, be it a dollar sign,
a star or a blank, and with two digits in its field it is accepted only if they tell the sum. So all simulated sentences
are accepted. -/
theorem single_errors_detected {before data after : List Char} (plain : ∀ c ∈ data, Plain c)
    (begins : data.head? ≠ some '$') (blankBefore : ∀ c ∈ before, isBlank c = true)
    (blankAfter : ∀ c ∈ after, isBlank c = true) :
    checksumHolds (before ++ sentence data ++ after) = true ∧
    (∀ front old back new, data = front ++ old :: back → Plain new → new ≠ old →
      checksumHolds (before ++ ('$' :: (front ++ new :: back) ++ '*' :: upperHex (checksum data).toNat) ++ after) =
        false) ∧
    (∀ d e m n, hexValue? d = some m → hexValue? e = some n →
      checksumHolds (before ++ ('$' :: data ++ ['*', d, e]) ++ after) = decide (16 * m + n = (checksum data).toNat)) ∧
    ∀ step, checksumHolds (simulated step).toList = true := by
  have byte := (checksum data).toNat_lt
  refine ⟨checksumHolds_sentence begins blankBefore blankAfter, ?_, ?_, ?_⟩
  · intro front old back new parts plain' differ
    have high := hexValue?_upperDigit (by omega : (checksum data).toNat / 16 < 16)
    have low := hexValue?_upperDigit (by omega : (checksum data).toNat % 16 < 16)
    rw [upperHex_byte byte, checksumHolds_framed blankBefore blankAfter high low, decide_eq_false_iff_not]
    have value : 16 * ((checksum data).toNat / 16) + (checksum data).toNat % 16 = (checksum data).toNat := by omega
    rw [value, UInt8.toNat_inj]
    subst parts
    exact (checksum_dropWhile_replaced (plain old (by simp)) begins plain' differ).symm
  · intro d e m n high low
    rw [checksumHolds_framed blankBefore blankAfter high low, dropWhile_unsigned begins]
  · intro step
    have first : (simulatedData step).head? ≠ some '$' := by
      rw [head?_simulatedData]
      decide
    have none : ∀ c ∈ ([] : List Char), isBlank c = true := by simp
    have bare := checksumHolds_sentence first none none
    rw [List.nil_append, List.append_nil] at bare
    rw [simulated, String.toList_ofList, bare]

/-- Data in which stars, blanks and dollar signs stand. -/
def starred : List Char := ['G', 'P', ' ', '*', '$', '1']

theorem single_errors_detected_starred :
    (∀ c ∈ starred, Plain c) ∧ starred.head? ≠ some '$' ∧
    checksumHolds ([' '] ++ ('$' :: starred ++ ['*', '0', '8']) ++ ['\r', '\n']) = true ∧
    checksumHolds ([' '] ++ ('$' :: ['$', 'P', ' ', '*', '$', '1'] ++ ['*', '0', '8']) ++ ['\r', '\n']) = false ∧
    checksumHolds ([' '] ++ ('$' :: ['G', 'P', ' ', '*', '*', '1'] ++ ['*', '0', '8']) ++ ['\r', '\n']) = false ∧
    checksumHolds ([' '] ++ ('$' :: starred ++ ['*', 'f', '8']) ++ ['\r', '\n']) = false := by
  have plain : ∀ c ∈ starred, Plain c := plain_of_all (by decide)
  have begins : starred.head? ≠ some '$' := by decide
  have blank : ∀ c ∈ [' '], isBlank c = true := List.all_eq_true.mp (by decide)
  have ending : ∀ c ∈ ['\r', '\n'], isBlank c = true := List.all_eq_true.mp (by decide)
  obtain ⟨whole, replaced, field, _⟩ := single_errors_detected plain begins blank ending
  have written : upperHex (checksum starred).toNat = ['0', '8'] := by decide +kernel
  refine ⟨plain, begins, ?_, ?_, ?_, ?_⟩
  · rwa [sentence, written] at whole
  · have first := replaced [] 'G' ['P', ' ', '*', '$', '1'] '$' rfl (by decide) (by decide)
    rwa [written] at first
  · have last := replaced ['G', 'P', ' ', '*'] '$' ['1'] '*' rfl (by decide) (by decide)
    rwa [written] at last
  · rw [field 'f' '8' 15 8 rfl rfl]
    decide +kernel

end CaptureRig.Gnss
