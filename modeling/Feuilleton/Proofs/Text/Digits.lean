import Mathlib.Algebra.Group.Nat.Defs
import Feuilleton.Text.Digit

/-!
# Runs of digits

The first run of digits of a text, and numbers spelled with a fixed number of decimal digits. Such
spellings are in the order of their numbers.
-/

namespace Feuilleton.Text

variable {width number other : Nat} {cs digits front back rest rest' : List Char}

/-! ## The first run -/

/-- Nothing before the digits is one, nor is what follows them at once. -/
def IsFirstDigits (digits cs : List Char) : Prop :=
  digits ≠ [] ∧ (∀ c ∈ digits, isDigit c = true) ∧ ∃ front back, cs = front ++ digits ++ back ∧
    (∀ c ∈ front, isDigit c = false) ∧ ∀ c, back.head? = some c → isDigit c = false

theorem takeWhile_isDigit_append (hdigits : ∀ c ∈ digits, isDigit c = true)
    (hback : ∀ c, back.head? = some c → isDigit c = false) :
    (digits ++ back).takeWhile isDigit = digits := by
  rw [List.takeWhile_append_of_pos hdigits]
  cases back with
  | nil => simp
  | cons c back => simp [hback c rfl]

theorem firstDigits?_eq_some_iff : firstDigits? cs = some digits ↔ IsFirstDigits digits cs := by
  constructor
  · intro h
    have hsplit := List.takeWhile_append_dropWhile (p := (!isDigit ·)) (l := cs)
    have hfront : ∀ c ∈ cs.takeWhile (!isDigit ·), isDigit c = false := by
      intro c hc
      simpa using List.all_eq_true.1 List.all_takeWhile c hc
    unfold firstDigits? at h
    cases hrest : cs.dropWhile (!isDigit ·) with
    | nil => simp [hrest] at h
    | cons c rest =>
        have hc : isDigit c = true := by
          simpa [hrest] using List.head?_dropWhile_not (!isDigit ·) cs
        simp only [hrest, Option.some.injEq] at h
        subst h
        refine ⟨by simp [hc], ?_, cs.takeWhile (!isDigit ·), (c :: rest).dropWhile isDigit, ?_,
          hfront, ?_⟩
        · exact List.all_eq_true.1 List.all_takeWhile
        · rw [List.append_assoc, List.takeWhile_append_dropWhile, ← hrest, hsplit]
        · intro d hd
          have hnot := List.head?_dropWhile_not isDigit (c :: rest)
          simpa [hd] using hnot
  · rintro ⟨hne, hdigits, front, back, rfl, hfront, hback⟩
    have hdrop : (front ++ digits ++ back).dropWhile (!isDigit ·) = digits ++ back := by
      rw [List.append_assoc, List.dropWhile_append_of_pos (by simpa using hfront)]
      cases digits with
      | nil => exact absurd rfl hne
      | cons c digits => simp [hdigits c List.mem_cons_self]
    have htake := takeWhile_isDigit_append hdigits hback
    unfold firstDigits?
    rw [hdrop]
    cases digits with
    | nil => exact absurd rfl hne
    | cons c digits => exact congrArg some htake

/-! ## Spelled numbers -/

structure Spells (width number : Nat) (digits : List Char) : Prop where
  length : digits.length = width
  isDigit : ∀ c ∈ digits, c.isDigit = true
  value : Nat.ofDigitChars 10 digits 0 = number

theorem ofDigitChars_cons_zero (c : Char) (digits : List Char) :
    Nat.ofDigitChars 10 (c :: digits) 0 =
      10 ^ digits.length * (c.toNat - '0'.toNat) + Nat.ofDigitChars 10 digits 0 := by
  rw [Nat.ofDigitChars_cons, Nat.ofDigitChars_eq_ofDigitChars_zero, Nat.mul_zero, Nat.zero_add]

theorem ofDigitChars_lt (h : ∀ c ∈ digits, c.isDigit = true) :
    Nat.ofDigitChars 10 digits 0 < 10 ^ digits.length := by
  induction digits with
  | nil => simp
  | cons c digits ih =>
      rw [List.forall_mem_cons, Char.isDigit_iff_toNat] at h
      have hdigits := ih h.2
      have hvalue : c.toNat - '0'.toNat ≤ 9 := Nat.sub_le_sub_right h.1.2 '0'.toNat
      have hle := Nat.mul_le_mul_left (10 ^ digits.length) hvalue
      rw [ofDigitChars_cons_zero, List.length_cons, Nat.pow_succ]
      omega

theorem mul_add_lt_mul_add_iff {place high high' low low' : Nat} (hlow : low < place)
    (hlow' : low' < place) :
    place * high + low < place * high' + low' ↔ high < high' ∨ high = high' ∧ low < low' := by
  rcases Nat.lt_trichotomy high high' with h | rfl | h
  · have hle := Nat.mul_le_mul_left place (Nat.succ_le_of_lt h)
    rw [Nat.mul_succ] at hle
    omega
  · omega
  · have hle := Nat.mul_le_mul_left place (Nat.succ_le_of_lt h)
    rw [Nat.mul_succ] at hle
    omega

theorem lt_iff_ofDigitChars_lt (hlength : front.length = back.length)
    (hfront : ∀ c ∈ front, c.isDigit = true) (hback : ∀ c ∈ back, c.isDigit = true) :
    front < back ↔ Nat.ofDigitChars 10 front 0 < Nat.ofDigitChars 10 back 0 := by
  induction front generalizing back with
  | nil =>
      cases back with
      | nil => simp
      | cons d back => simp at hlength
  | cons c front ih =>
      cases back with
      | nil => simp at hlength
      | cons d back =>
          rw [List.length_cons, List.length_cons, Nat.add_right_cancel_iff] at hlength
          rw [List.forall_mem_cons, Char.isDigit_iff_toNat] at hfront hback
          have hlow := ofDigitChars_lt hfront.2
          have hlow' := ofDigitChars_lt hback.2
          have hchar : c < d ↔ c.toNat < d.toNat := Char.lt_def.trans UInt32.lt_iff_toNat_lt
          rw [hlength] at hlow
          rw [List.cons_lt_cons_iff, ih hlength hfront.2 hback.2, ofDigitChars_cons_zero,
            ofDigitChars_cons_zero, hlength, mul_add_lt_mul_add_iff hlow hlow',
            ← Char.toNat_inj, hchar]
          omega

theorem append_lt_append_iff_of_length_eq (hlength : front.length = back.length) :
    front ++ rest < back ++ rest' ↔ front < back ∨ front = back ∧ rest < rest' := by
  induction front generalizing back with
  | nil =>
      cases back with
      | nil => simp
      | cons d back => simp at hlength
  | cons c front ih =>
      cases back with
      | nil => simp at hlength
      | cons d back =>
          have hrest := ih (Nat.add_right_cancel hlength)
          simp only [List.cons_append, List.cons_lt_cons_iff, hrest, List.cons.injEq, and_or_left,
            or_assoc, and_assoc]

namespace Spells

theorem lt_iff (hfront : Spells width number front) (hback : Spells width other back) :
    front < back ↔ number < other := by
  rw [lt_iff_ofDigitChars_lt (hfront.length.trans hback.length.symm) hfront.isDigit hback.isDigit,
    hfront.value, hback.value]

theorem eq_iff (hfront : Spells width number front) (hback : Spells width other back) :
    front = back ↔ number = other := by
  constructor
  · rintro rfl
    exact hfront.value.symm.trans hback.value
  · rintro rfl
    have hnot : ¬front < back := by simp [hfront.lt_iff hback]
    have hnot' : ¬back < front := by simp [hback.lt_iff hfront]
    exact List.le_antisymm (List.not_lt.1 hnot') (List.not_lt.1 hnot)

theorem append_lt_append_iff (hfront : Spells width number front)
    (hback : Spells width other back) :
    front ++ rest < back ++ rest' ↔ number < other ∨ number = other ∧ rest < rest' := by
  rw [append_lt_append_iff_of_length_eq (hfront.length.trans hback.length.symm),
    hfront.lt_iff hback, hfront.eq_iff hback]

end Spells

theorem spells_toDigits (number : Nat) :
    Spells (Nat.toDigits 10 number).length number (Nat.toDigits 10 number) where
  length := rfl
  isDigit := fun _ hc => Nat.isDigit_of_mem_toDigits (by decide) (by decide) hc
  value := Nat.ofDigitChars_ten_toDigits

theorem length_toDigits_le (hwidth : 0 < width) (h : number < 10 ^ width) :
    (Nat.toDigits 10 number).length ≤ width :=
  (Nat.length_toDigits_le_iff (by decide) hwidth).2 h

theorem spells_padded (hwidth : 0 < width) (h : number < 10 ^ width) :
    Spells width number (padded width number).toList := by
  have hle := length_toDigits_le hwidth h
  have hdigits := spells_toDigits number
  simp only [padded, String.toList_ofList]
  constructor
  · rw [List.length_append, List.length_replicate]
    omega
  · intro c hc
    rw [List.mem_append, List.mem_replicate] at hc
    rcases hc with ⟨-, rfl⟩ | hc
    · rfl
    · exact hdigits.isDigit c hc
  · rw [Nat.ofDigitChars_append, Nat.ofDigitChars_replicate_zero, Nat.mul_zero, hdigits.value]

end Feuilleton.Text
