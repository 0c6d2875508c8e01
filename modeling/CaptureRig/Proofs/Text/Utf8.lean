import CaptureRig.Text.Utf8

namespace CaptureRig.Utf8

theorem lead?_one {b : UInt8} (upper : b.toNat < 0x80) : lead? b = some (0, b.toNat, 0x80, 0xBF) := by
  simp only [lead?]
  rw [if_pos upper]

theorem lead?_two {b : UInt8} (lower : 0xC2 ≤ b.toNat) (upper : b.toNat < 0xE0) :
    lead? b = some (1, b.toNat - 0xC0, 0x80, 0xBF) := by
  simp only [lead?]
  rw [if_neg (by omega), if_neg (by omega), if_pos upper]

theorem lead?_three {b : UInt8} (lower : 0xE0 ≤ b.toNat) (upper : b.toNat < 0xF0) :
    lead? b = some (2, b.toNat - 0xE0, if b.toNat = 0xE0 then 0xA0 else 0x80, if b.toNat = 0xED then 0x9F else 0xBF) := by
  simp only [lead?]
  rw [if_neg (by omega), if_neg (by omega), if_neg (by omega)]
  by_cases first : b.toNat = 0xE0
  · simp [first]
  by_cases surrogates : b.toNat = 0xED
  · simp [surrogates]
  · rw [if_neg first, if_neg surrogates, if_pos upper, if_neg first, if_neg surrogates]

theorem lead?_four {b : UInt8} (lower : 0xF0 ≤ b.toNat) (upper : b.toNat ≤ 0xF4) :
    lead? b = some (3, b.toNat - 0xF0, if b.toNat = 0xF0 then 0x90 else 0x80, if b.toNat = 0xF4 then 0x8F else 0xBF) := by
  simp only [lead?]
  rw [if_neg (by omega), if_neg (by omega), if_neg (by omega), if_neg (by omega), if_neg (by omega), if_neg (by omega)]
  by_cases first : b.toNat = 0xF0
  · simp [first]
  by_cases last : b.toNat = 0xF4
  · simp [last]
  · rw [if_neg first, if_pos (by omega), if_neg first, if_neg last]

theorem collect_cons {count payload low high : Nat} {b : UInt8} (lower : low ≤ b.toNat) (upper : b.toNat ≤ high)
    (rest : List UInt8) :
    collect (count + 1) payload low high (b :: rest) =
      ((collect count (payload * 64 + (b.toNat - 0x80)) 0x80 0xBF rest).1,
        (collect count (payload * 64 + (b.toNat - 0x80)) 0x80 0xBF rest).2 + 1) := by
  rw [collect, if_pos ⟨lower, upper⟩]

theorem toNat_byte {n : Nat} (small : n < 256) : (UInt8.ofNat n).toNat = n := by
  rw [UInt8.toNat_ofNat']
  exact Nat.mod_eq_of_lt small

/-- The bytes of a character are read as that character, and no byte after them is looked at. -/
theorem next_encodeChar {c : Char} {b : UInt8} {tail : List UInt8} (spelled : String.utf8EncodeChar c = b :: tail)
    (rest : List UInt8) : next b (tail ++ rest) = (some c, tail.length) := by
  -- A character's number lies below the surrogates, or above them and within seventeen planes.
  have valid : c.toNat < 0xD800 ∨ 0xDFFF < c.toNat ∧ c.toNat < 0x110000 := c.valid
  have spells : Char.ofNat c.toNat = c := Char.ofNat_toNat c
  have number : c.val.toNat = c.toNat := rfl
  generalize c.toNat = n at valid spells number
  simp only [String.utf8EncodeChar, number] at spelled
  split at spelled
  · cases spelled
    rw [next, lead?_one (by rw [toNat_byte] <;> omega)]
    simp only [collect, toNat_byte (by omega : n < 256), Option.map_some, spells, List.length_nil]
  split at spelled
  · cases spelled
    have lead : (UInt8.ofNat (n / 64 % 32 + 192)).toNat = n / 64 % 32 + 192 := toNat_byte (by omega)
    have last : (UInt8.ofNat (n % 64 + 128)).toNat = n % 64 + 128 := toNat_byte (by omega)
    have whole : (n / 64 % 32 + 192 - 0xC0) * 64 + (n % 64 + 128 - 0x80) = n := by omega
    rw [next, lead?_two (by omega) (by omega), List.cons_append]
    dsimp only
    rw [collect_cons (by omega) (by omega), lead, last, whole]
    simp only [collect, Option.map_some, spells, List.length_cons, List.length_nil]
  split at spelled
  · cases spelled
    have lead : (UInt8.ofNat (n / 4096 % 16 + 224)).toNat = n / 4096 % 16 + 224 := toNat_byte (by omega)
    have second : (UInt8.ofNat (n / 64 % 64 + 128)).toNat = n / 64 % 64 + 128 := toNat_byte (by omega)
    have last : (UInt8.ofNat (n % 64 + 128)).toNat = n % 64 + 128 := toNat_byte (by omega)
    have whole : ((n / 4096 % 16 + 224 - 0xE0) * 64 + (n / 64 % 64 + 128 - 0x80)) * 64 + (n % 64 + 128 - 0x80) = n := by
      omega
    rw [next, lead?_three (by omega) (by omega), List.cons_append, List.cons_append]
    dsimp only
    rw [collect_cons (by split <;> omega) (by split <;> omega), collect_cons (by omega) (by omega), lead, second, last,
      whole]
    simp only [collect, Option.map_some, spells, List.length_cons, List.length_nil]
  · cases spelled
    have lead : (UInt8.ofNat (n / 262144 % 8 + 240)).toNat = n / 262144 % 8 + 240 := toNat_byte (by omega)
    have second : (UInt8.ofNat (n / 4096 % 64 + 128)).toNat = n / 4096 % 64 + 128 := toNat_byte (by omega)
    have third : (UInt8.ofNat (n / 64 % 64 + 128)).toNat = n / 64 % 64 + 128 := toNat_byte (by omega)
    have last : (UInt8.ofNat (n % 64 + 128)).toNat = n % 64 + 128 := toNat_byte (by omega)
    have whole : (((n / 262144 % 8 + 240 - 0xF0) * 64 + (n / 4096 % 64 + 128 - 0x80)) * 64 +
        (n / 64 % 64 + 128 - 0x80)) * 64 + (n % 64 + 128 - 0x80) = n := by
      omega
    rw [next, lead?_four (by omega) (by omega), List.cons_append, List.cons_append, List.cons_append]
    dsimp only
    rw [collect_cons (by split <;> omega) (by split <;> omega), collect_cons (by omega) (by omega),
      collect_cons (by omega) (by omega), lead, second, third, last, whole]
    simp only [collect, Option.map_some, spells, List.length_cons, List.length_nil]

/-- A character of ASCII is one byte. -/
theorem encodeChar_ascii {c : Char} (small : c.toNat < 0x80) : String.utf8EncodeChar c = [UInt8.ofNat c.toNat] := by
  have within : c.val.toNat ≤ 0x7F := Nat.le_of_lt_succ small
  rw [String.utf8EncodeChar, if_pos within]
  rfl

theorem encode_cons (c : Char) (cs : List Char) : encode (c :: cs) = String.utf8EncodeChar c ++ encode cs :=
  List.flatMap_cons

theorem encode_ne_nil {cs : List Char} (some : cs ≠ []) : encode cs ≠ [] := by
  obtain ⟨c, rest, rfl⟩ := List.exists_cons_of_ne_nil some
  rw [encode_cons]
  exact List.append_ne_nil_of_left_ne_nil String.utf8EncodeChar_ne_nil _

/-- A character has at most four bytes. -/
theorem length_encode_le (cs : List Char) : (encode cs).length ≤ 4 * cs.length := by
  induction cs with
  | nil => exact Nat.zero_le _
  | cons c cs ih =>
    have one : (String.utf8EncodeChar c).length ≤ 4 := String.length_utf8EncodeChar c ▸ c.utf8Size_le_four
    rw [encode_cons, List.length_append, List.length_cons]
    omega

theorem encode_append (cs ds : List Char) : encode (cs ++ ds) = encode cs ++ encode ds := List.flatMap_append

theorem decodeLossy_encode_append (cs : List Char) (rest : List UInt8) :
    decodeLossy (encode cs ++ rest) = cs ++ decodeLossy rest := by
  induction cs with
  | nil => rfl
  | cons c cs ih =>
    obtain ⟨b, tail, spelled⟩ := List.exists_cons_of_ne_nil (String.utf8EncodeChar_ne_nil (c := c))
    rw [encode_cons, spelled, List.cons_append, List.cons_append, List.append_assoc, decodeLossy, next_encodeChar spelled]
    simp only [Option.getD_some, List.drop_left, ih, List.cons_append]

theorem decodeLossy_encode (cs : List Char) : decodeLossy (encode cs) = cs := by
  have whole := decodeLossy_encode_append cs []
  rwa [decodeLossy, List.append_nil, List.append_nil] at whole

theorem decode?_encode_append (cs : List Char) (rest : List UInt8) :
    decode? (encode cs ++ rest) = (decode? rest).map (cs ++ ·) := by
  induction cs with
  | nil =>
    rw [encode, List.flatMap_nil, List.nil_append]
    exact Option.map_id'.symm
  | cons c cs ih =>
    obtain ⟨b, tail, spelled⟩ := List.exists_cons_of_ne_nil (String.utf8EncodeChar_ne_nil (c := c))
    rw [encode_cons, spelled, List.cons_append, List.cons_append, List.append_assoc, decode?, next_encodeChar spelled]
    simp only [List.drop_left, ih, Option.map_map]
    rfl

/-- The strict reader gives back what has been written. -/
theorem decode?_encode (cs : List Char) : decode? (encode cs) = some cs := by
  have whole := decode?_encode_append cs []
  rwa [decode?, List.append_nil, Option.map_some, List.append_nil] at whole

theorem encode_injective : Function.Injective encode := by
  intro cs ds same
  exact Option.some.inj ((decode?_encode cs).symm.trans (same ▸ decode?_encode ds))

theorem flatten_map_encode (parts : List (List Char)) : (parts.map encode).flatten = encode parts.flatten := by
  induction parts with
  | nil => rfl
  | cons part parts ih => rw [List.map_cons, List.flatten_cons, ih, List.flatten_cons, encode_append]

/-- A byte of ASCII is part of no other character. -/
theorem eq_of_mem_encodeChar {c d : Char} (small : d.toNat < 0x80)
    (member : UInt8.ofNat d.toNat ∈ String.utf8EncodeChar c) : c = d := by
  have far (n : Nat) (low : 0x80 ≤ n) (high : n < 0x100) : UInt8.ofNat d.toNat ≠ UInt8.ofNat n := fun same => by
    have codes := congrArg UInt8.toNat same
    rw [toNat_byte (by omega), toNat_byte high] at codes
    omega
  by_cases ascii : c.toNat < 0x80
  · rw [encodeChar_ascii ascii, List.mem_singleton] at member
    have codes := congrArg UInt8.toNat member
    rw [toNat_byte (by omega), toNat_byte (by omega)] at codes
    rw [← Char.ofNat_toNat c, ← codes, Char.ofNat_toNat]
  · exfalso
    have large : ¬c.val.toNat ≤ 0x7F := fun within => ascii (Nat.lt_succ_of_le within)
    rw [String.utf8EncodeChar, if_neg large] at member
    split at member
    · simp only [List.mem_cons, List.not_mem_nil, or_false] at member
      rcases member with lead | last
      · exact far _ (by omega) (by omega) lead
      · exact far _ (by omega) (by omega) last
    split at member
    · simp only [List.mem_cons, List.not_mem_nil, or_false] at member
      rcases member with lead | second | last
      · exact far _ (by omega) (by omega) lead
      · exact far _ (by omega) (by omega) second
      · exact far _ (by omega) (by omega) last
    · simp only [List.mem_cons, List.not_mem_nil, or_false] at member
      rcases member with lead | second | third | last
      · exact far _ (by omega) (by omega) lead
      · exact far _ (by omega) (by omega) second
      · exact far _ (by omega) (by omega) third
      · exact far _ (by omega) (by omega) last

theorem collect_used {count payload low high code used : Nat} {rest : List UInt8}
    (collected : collect count payload low high rest = (some code, used)) : used = count := by
  induction count generalizing payload low high rest used with
  | zero =>
    cases collected
    rfl
  | succ count ih =>
    cases rest with
    | nil => cases collected
    | cons b rest =>
      rw [collect] at collected
      split at collected
      · simp only [Prod.mk.injEq] at collected
        exact collected.2.symm.trans (congrArg (· + 1) (ih (Prod.ext collected.1 rfl)))
      · cases collected

theorem collect_short {count payload low high : Nat} {rest : List UInt8} (short : rest.length < count) :
    (collect count payload low high rest).1 = none := by
  induction count generalizing payload low high rest with
  | zero => cases short
  | succ count ih =>
    cases rest with
    | nil => rfl
    | cons b rest =>
      rw [collect]
      split
      · exact ih (Nat.lt_of_succ_lt_succ short)
      · rfl

/-- A character of which some bytes are missing at the end is none. -/
theorem next_short {c : Char} {b : UInt8} {tail part : List UInt8} (spelled : String.utf8EncodeChar c = b :: tail)
    (short : part.length < tail.length) : (next b part).1 = none := by
  have whole := next_encodeChar spelled []
  rw [List.append_nil] at whole
  unfold next at whole ⊢
  cases lead : lead? b with
  | none => rfl
  | some data =>
    obtain ⟨count, payload, low, high⟩ := data
    rw [lead] at whole
    simp only [Prod.mk.injEq, Option.map_eq_some_iff] at whole
    obtain ⟨⟨code, collected, _⟩, used⟩ := whole
    have needed := collect_used (Prod.ext collected used)
    dsimp only
    rw [collect_short (needed ▸ short), Option.map_none]

/-- A byte that continues a character. -/
def Continues (b : UInt8) : Prop := 0x80 ≤ b.toNat ∧ b.toNat ≤ 0xBF

/-- All bytes of a character but the first continue it. -/
theorem continues_of_mem_tail {c : Char} {b x : UInt8} {tail : List UInt8} (spelled : String.utf8EncodeChar c = b :: tail)
    (member : x ∈ tail) : Continues x := by
  have byte (n : Nat) : Continues (UInt8.ofNat (n % 64 + 128)) := by
    rw [Continues, toNat_byte (by omega)]
    omega
  simp only [String.utf8EncodeChar] at spelled
  split at spelled
  · cases spelled
    cases member
  split at spelled
  · cases spelled
    cases List.mem_singleton.mp member
    exact byte _
  split at spelled
  · cases spelled
    simp only [List.mem_cons, List.not_mem_nil, or_false] at member
    rcases member with rfl | rfl
    all_goals exact byte _
  · cases spelled
    simp only [List.mem_cons, List.not_mem_nil, or_false] at member
    rcases member with rfl | rfl | rfl
    all_goals exact byte _

theorem continues_of_cut {c : Char} {p q : List UInt8} (spelled : String.utf8EncodeChar c = p ++ q) (some : p ≠ []) :
    ∀ b ∈ q, Continues b := by
  obtain ⟨b, tail, rfl⟩ := List.exists_cons_of_ne_nil some
  exact fun x member => continues_of_mem_tail spelled (List.mem_append_right tail member)

/-- No text begins with a byte that continues a character. -/
theorem decode?_of_continues {b : UInt8} (continues : Continues b) (rest : List UInt8) : decode? (b :: rest) = none := by
  have led : lead? b = none := by
    unfold Continues at continues
    simp only [lead?]
    rw [if_neg (by omega), if_pos (by omega)]
  rw [decode?, next, led]

/-- Where the bytes of a text can be parted: between two characters, or inside one. -/
inductive Cut (cs : List Char) (x y : List UInt8) : Prop
  | between (front back : List Char) (text : cs = front ++ back) (left : x = encode front) (right : y = encode back)
  | inside (front : List Char) (c : Char) (back : List Char) (p q : List UInt8)
      (spelled : String.utf8EncodeChar c = p ++ q) (some : p ≠ []) (more : q ≠ []) (text : cs = front ++ c :: back)
      (left : x = encode front ++ p) (right : y = q ++ encode back)

theorem Cut.cons {cs : List Char} {x y : List UInt8} (cut : Cut cs x y) (c : Char) :
    Cut (c :: cs) (String.utf8EncodeChar c ++ x) y := by
  cases cut with
  | between front back text left right =>
    exact .between (c :: front) back (by rw [text]; rfl) (by rw [left, encode_cons]) right
  | inside front d back p q spelled some more text left right =>
    exact .inside (c :: front) d back p q spelled some more (by rw [text]; rfl)
      (by rw [left, encode_cons, List.append_assoc]) right

theorem cut_of_append {cs : List Char} {x y : List UInt8} (parts : x ++ y = encode cs) : Cut cs x y := by
  induction cs generalizing x with
  | nil =>
    obtain ⟨none, none'⟩ := List.append_eq_nil_iff.mp parts
    exact .between [] [] rfl none none'
  | cons c cs ih =>
    rw [encode_cons] at parts
    rcases List.append_eq_append_iff.mp parts with ⟨q, spelled, rest⟩ | ⟨later, start, rest⟩
    · by_cases none : x = []
      · exact .between [] (c :: cs) rfl none (by rw [encode_cons, spelled, none]; exact rest)
      by_cases all : q = []
      · refine .between [c] cs rfl ?_ (by rw [rest, all]; rfl)
        rw [encode_cons, spelled, all, List.append_nil]
        exact (List.append_nil x).symm
      · exact .inside [] c cs x q spelled none all rfl rfl rest
    · exact start ▸ (ih rest.symm).cons c

/-- What ends inside a character is no text. -/
theorem decode?_of_inside (front : List Char) {c : Char} {p q : List UInt8}
    (spelled : String.utf8EncodeChar c = p ++ q) (some : p ≠ []) (more : q ≠ []) :
    decode? (encode front ++ p) = none := by
  obtain ⟨b, part, rfl⟩ := List.exists_cons_of_ne_nil some
  have short : part.length < (part ++ q).length := by
    rw [List.length_append]
    exact Nat.lt_add_of_pos_right (List.length_pos_iff.mpr more)
  have none := next_short spelled short
  rw [decode?_encode_append, decode?]
  split
  · rfl
  · rename_i found
    rw [found] at none
    cases none

theorem encode_nulls (n : Nat) : encode (List.replicate n '\x00') = List.replicate n 0 := by
  induction n with
  | zero => rfl
  | succ n ih => rw [List.replicate_succ, encode_cons, ih]; rfl

theorem exists_eq_encode {bytes : List UInt8} (valid : bytes.toByteArray.IsValidUTF8) : ∃ cs, bytes = encode cs := by
  obtain ⟨cs, spelled⟩ := valid
  exact ⟨cs, List.toByteArray_inj.mp spelled⟩

end CaptureRig.Utf8
