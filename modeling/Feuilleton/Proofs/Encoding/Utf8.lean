import Feuilleton.Encoding.Utf8

/-!
# UTF-8 without loss

The bytes of a character are read as this character, whatever follows them. Decoding therefore
gives back every text that was encoded, and puts no replacement into it. Strict reading finds no
fault with the bytes of a text, and with no other bytes. A single byte more makes at most one
character more, whatever the bytes are.
-/

namespace Feuilleton.Encoding.Utf8

variable {c : Char} {rest : Bytes} {b : UInt8}

/-! ## Continuation bytes -/

theorem toNat_continuation (n : Nat) : (continuation n).toNat = 0x80 + n % 64 := by
  have hbits : n % 64 < 64 := Nat.mod_lt n (by decide)
  exact UInt8.toNat_ofNat_of_lt' (show _ < 256 by omega)

theorem isContinuation_iff : isContinuation b = true ↔ 0x80 ≤ b.toNat ∧ b.toNat ≤ 0xBF := by
  simp [isContinuation, UInt8.le_iff_toNat_le]

theorem isContinuation_continuation (n : Nat) : isContinuation (continuation n) = true := by
  rw [isContinuation_iff, toNat_continuation]
  omega

theorem bits_continuation (n : Nat) : bits (continuation n) = n % 64 := by
  rw [bits, toNat_continuation]
  omega

theorem isSecondOfThree_iff {lead : UInt8} : isSecondOfThree lead b = true ↔
    isContinuation b = true ∧ (lead.toNat = 0xE0 → 0xA0 ≤ b.toNat) ∧
      (lead.toNat = 0xED → b.toNat ≤ 0x9F) := by
  unfold isSecondOfThree isContinuation
  simp only [← UInt8.toNat_inj, UInt8.le_iff_toNat_le, UInt8.reduceToNat]
  grind

theorem isSecondOfFour_iff {lead : UInt8} : isSecondOfFour lead b = true ↔
    isContinuation b = true ∧ (lead.toNat = 0xF0 → 0x90 ≤ b.toNat) ∧
      (lead.toNat = 0xF4 → b.toNat ≤ 0x8F) := by
  unfold isSecondOfFour isContinuation
  simp only [← UInt8.toNat_inj, UInt8.le_iff_toNat_le, UInt8.reduceToNat]
  grind

/-! ## First bytes -/

theorem leadOf_eq (b : UInt8) : leadOf b =
    if b.toNat < 0x80 then .one
    else if 0xC2 ≤ b.toNat ∧ b.toNat ≤ 0xDF then .two
    else if 0xE0 ≤ b.toNat ∧ b.toNat ≤ 0xEF then .three
    else if 0xF0 ≤ b.toNat ∧ b.toNat ≤ 0xF4 then .four
    else .none := by
  simp only [leadOf, UInt8.lt_iff_toNat_lt, UInt8.le_iff_toNat_le, UInt8.reduceToNat]

theorem decodeFirst_one (h : c.toNat < 0x80) :
    decodeFirst (UInt8.ofNat c.toNat) rest = (c, 1) := by
  have hb : (UInt8.ofNat c.toNat).toNat = c.toNat :=
    UInt8.toNat_ofNat_of_lt' (show _ < 256 by omega)
  have hlead : leadOf (UInt8.ofNat c.toNat) = .one := by rw [leadOf_eq, hb, if_pos h]
  unfold decodeFirst
  simp only [hlead, hb, Char.ofNat_toNat]

theorem decodeFirst_two (hlow : 0x80 ≤ c.toNat) (hhigh : c.toNat < 0x800) :
    decodeFirst (UInt8.ofNat (0xC0 + c.toNat / 64)) (continuation c.toNat :: rest) = (c, 2) := by
  have hb : (UInt8.ofNat (0xC0 + c.toNat / 64)).toNat = 0xC0 + c.toNat / 64 :=
    UInt8.toNat_ofNat_of_lt' (show _ < 256 by omega)
  have hlead : leadOf (UInt8.ofNat (0xC0 + c.toNat / 64)) = .two := by
    rw [leadOf_eq, hb, if_neg (by omega), if_pos (by omega)]
  have hnumber : (0xC0 + c.toNat / 64) % 32 * 64 + c.toNat % 64 = c.toNat := by omega
  unfold decodeFirst
  simp only [hlead, isContinuation_continuation, if_true, hb, bits_continuation, hnumber,
    Char.ofNat_toNat]

theorem decodeFirst_three (hlow : 0x800 ≤ c.toNat) (hhigh : c.toNat < 0x10000) :
    decodeFirst (UInt8.ofNat (0xE0 + c.toNat / 4096))
      (continuation (c.toNat / 64) :: continuation c.toNat :: rest) = (c, 3) := by
  have hvalid : c.toNat < 0xD800 ∨ 0xDFFF < c.toNat ∧ c.toNat < 0x110000 := c.valid
  have hb : (UInt8.ofNat (0xE0 + c.toNat / 4096)).toNat = 0xE0 + c.toNat / 4096 :=
    UInt8.toNat_ofNat_of_lt' (show _ < 256 by omega)
  have hlead : leadOf (UInt8.ofNat (0xE0 + c.toNat / 4096)) = .three := by
    rw [leadOf_eq, hb, if_neg (by omega), if_neg (by omega), if_pos (by omega)]
  have hnumber : ((0xE0 + c.toNat / 4096) % 16 * 64 + c.toNat / 64 % 64) * 64 + c.toNat % 64 =
      c.toNat := by omega
  have hsecond : isSecondOfThree (UInt8.ofNat (0xE0 + c.toNat / 4096))
      (continuation (c.toNat / 64)) = true := by
    rw [isSecondOfThree_iff, hb, toNat_continuation]
    exact ⟨isContinuation_continuation _, by omega, by omega⟩
  unfold decodeFirst
  simp only [hlead, hsecond, isContinuation_continuation, if_true, hb, bits_continuation, hnumber,
    Char.ofNat_toNat]

theorem decodeFirst_four (hlow : 0x10000 ≤ c.toNat) :
    decodeFirst (UInt8.ofNat (0xF0 + c.toNat / 262144))
      (continuation (c.toNat / 4096) :: continuation (c.toNat / 64) :: continuation c.toNat ::
        rest) = (c, 4) := by
  have hvalid : c.toNat < 0xD800 ∨ 0xDFFF < c.toNat ∧ c.toNat < 0x110000 := c.valid
  have hb : (UInt8.ofNat (0xF0 + c.toNat / 262144)).toNat = 0xF0 + c.toNat / 262144 :=
    UInt8.toNat_ofNat_of_lt' (show _ < 256 by omega)
  have hlead : leadOf (UInt8.ofNat (0xF0 + c.toNat / 262144)) = .four := by
    rw [leadOf_eq, hb, if_neg (by omega), if_neg (by omega), if_neg (by omega), if_pos (by omega)]
  have hnumber : (((0xF0 + c.toNat / 262144) % 8 * 64 + c.toNat / 4096 % 64) * 64 +
      c.toNat / 64 % 64) * 64 + c.toNat % 64 = c.toNat := by omega
  have hsecond : isSecondOfFour (UInt8.ofNat (0xF0 + c.toNat / 262144))
      (continuation (c.toNat / 4096)) = true := by
    rw [isSecondOfFour_iff, hb, toNat_continuation]
    exact ⟨isContinuation_continuation _, by omega, by omega⟩
  unfold decodeFirst
  simp only [hlead, hsecond, isContinuation_continuation, if_true, hb, bits_continuation, hnumber,
    Char.ofNat_toNat]

/-! ## Texts -/

theorem decodeFirst_encodeChar (c : Char) (rest : Bytes) : ∃ b tail, encodeChar c = b :: tail ∧
    decodeFirst b (tail ++ rest) = (c, tail.length + 1) := by
  unfold encodeChar
  dsimp only
  by_cases hone : c.toNat < 0x80
  · rw [if_pos hone]
    exact ⟨_, _, rfl, decodeFirst_one hone⟩
  by_cases htwo : c.toNat < 0x800
  · rw [if_neg hone, if_pos htwo]
    exact ⟨_, _, rfl, decodeFirst_two (by omega) htwo⟩
  by_cases hthree : c.toNat < 0x10000
  · rw [if_neg hone, if_neg htwo, if_pos hthree]
    exact ⟨_, _, rfl, decodeFirst_three (by omega) hthree⟩
  · rw [if_neg hone, if_neg htwo, if_neg hthree]
    exact ⟨_, _, rfl, decodeFirst_four (by omega)⟩

theorem decodeList_encodeChar_append (c : Char) (rest : Bytes) :
    decodeList (encodeChar c ++ rest) = c :: decodeList rest := by
  obtain ⟨b, tail, hbytes, hfirst⟩ := decodeFirst_encodeChar c rest
  rw [hbytes, List.cons_append, decodeList, hfirst]
  simp

theorem decodeList_encode (s : String) : decodeList (encode s) = s.toList := by
  unfold encode
  induction s.toList with
  | nil => rw [List.flatMap_nil, decodeList]
  | cons c cs ih => rw [List.flatMap_cons, decodeList_encodeChar_append, ih]

theorem decode_encode (s : String) : decode (encode s) = s := by
  rw [decode, decodeList_encode, String.ofList_toList]

theorem encodeChar_eq_utf8EncodeChar (c : Char) : encodeChar c = String.utf8EncodeChar c := by
  have hvalid : c.toNat < 0xD800 ∨ 0xDFFF < c.toNat ∧ c.toNat < 0x110000 := c.valid
  simp only [encodeChar, String.utf8EncodeChar, continuation, Char.toNat] at hvalid ⊢
  grind

/-- The bytes in which the text is stored. -/
theorem encode_eq_toByteArray (s : String) : encode s = s.toByteArray.data.toList := by
  rw [← String.utf8Encode_toList, List.utf8Encode, List.toList_data_toByteArray, encode]
  congr 1
  funext c
  exact encodeChar_eq_utf8EncodeChar c

/-! ## Strict reading -/

theorem findFault?_cons_eq_none_iff {position size : Nat}
    (hfirst : decodeFirst b rest = (c, size)) : findFault? position (b :: rest) = none ↔
      b :: rest.take (size - 1) = encodeChar c ∧
        findFault? (position + size) (rest.drop (size - 1)) = none := by
  rw [findFault?, hfirst]
  dsimp only
  split <;> simp [*]

/-- There is no fault exactly where the bytes are those of the characters that are read. -/
theorem findFault?_eq_none_iff {bytes : Bytes} {position : Nat} :
    findFault? position bytes = none ↔ (decodeList bytes).flatMap encodeChar = bytes := by
  induction bytes using decodeList.induct generalizing position with
  | case1 => simp [findFault?, decodeList]
  | case2 b rest c size hfirst ih =>
      rw [findFault?_cons_eq_none_iff hfirst, decodeList, hfirst, ih, List.flatMap_cons]
      constructor
      · rintro ⟨hchar, hlater⟩
        rw [hlater, ← hchar, List.cons_append, List.take_append_drop]
      · intro heq
        generalize (decodeList (rest.drop (size - 1))).flatMap encodeChar = later at heq ⊢
        -- the character is read again from its own bytes, so these are all that it took
        obtain ⟨d, tail, hchar, hread⟩ := decodeFirst_encodeChar c later
        rw [hchar, List.cons_append, List.cons.injEq] at heq
        obtain ⟨rfl, rfl⟩ := heq
        obtain rfl : tail.length + 1 = size := congrArg Prod.snd (hread.symm.trans hfirst)
        simp [hchar]

theorem findFault?_encode (s : String) (position : Nat) :
    findFault? position (encode s) = none := by
  rw [findFault?_eq_none_iff, decodeList_encode, encode]

/-! ## Lengths -/

theorem decodeList_of_isContinuation (h : isContinuation b = true) (rest : Bytes) :
    decodeList (b :: rest) = replacement :: decodeList rest := by
  rw [isContinuation_iff] at h
  have hlead : leadOf b = .none := by
    rw [leadOf_eq, if_neg (by omega), if_neg (by omega), if_neg (by omega), if_neg (by omega)]
  have hfirst : decodeFirst b rest = (replacement, 1) := by
    unfold decodeFirst
    simp only [hlead]
  rw [decodeList, hfirst]
  simp

/-- A character takes no other bytes than continuations behind its first one. -/
theorem isContinuation_of_mem_take {d : UInt8}
    (h : d ∈ rest.take ((decodeFirst b rest).2 - 1)) : isContinuation d = true := by
  have hthree (second : UInt8) : isSecondOfThree b second = true → isContinuation second = true :=
    fun h => (isSecondOfThree_iff.1 h).1
  have hfour (second : UInt8) : isSecondOfFour b second = true → isContinuation second = true :=
    fun h => (isSecondOfFour_iff.1 h).1
  unfold decodeFirst at h
  split at h <;> repeat' split at h
  all_goals grind

theorem length_decodeList_drop_le (rest : Bytes) (n : Nat)
    (h : ∀ d ∈ rest.take n, isContinuation d = true) :
    (decodeList (rest.drop n)).length ≤ (decodeList rest).length := by
  induction n generalizing rest with
  | zero => exact Nat.le_refl _
  | succ n ih =>
      cases rest with
      | nil => exact Nat.le_refl _
      | cons d rest =>
          rw [List.take_succ_cons, List.forall_mem_cons] at h
          rw [List.drop_succ_cons, decodeList_of_isContinuation h.1, List.length_cons]
          exact Nat.le_succ_of_le (ih rest h.2)

/-- A byte in front adds one character at most. -/
theorem length_decodeList_cons_le (b : UInt8) (rest : Bytes) :
    (decodeList (b :: rest)).length ≤ (decodeList rest).length + 1 := by
  rw [decodeList]
  exact Nat.succ_le_succ (length_decodeList_drop_le rest _ fun d => isContinuation_of_mem_take)

end Feuilleton.Encoding.Utf8
