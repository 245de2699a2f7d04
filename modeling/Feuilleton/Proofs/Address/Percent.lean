import Feuilleton.Address.Percent
import Feuilleton.Json.Reader
import Feuilleton.Proofs.Encoding.Utf8

/-!
# Percent decoding

An escape is a percent sign with two hexadecimal digits and stands for one byte; every other
character stands for its bytes in UTF-8. What is percent-encoded consists of unreserved characters
and escapes, and is decoded to what it was. A text is decoded to itself exactly if it has no escape.
-/

namespace Feuilleton.Address

open Encoding (Bytes)
open Json (hexDigit?)

variable {c : Char} {rest : List Char}

/-- The byte that two hexadecimal digits in any case stand for. -/
def escapedByte? (high low : Char) : Option UInt8 := do
  let high ← hexDigit? high
  let low ← hexDigit? low
  some (UInt8.ofNat (16 * high + low))

/-- The bytes of a text with escapes. A percent sign that begins no escape stands for itself. -/
def percentBytes : List Char → Bytes
  | [] => []
  | '%' :: high :: low :: rest =>
      match escapedByte? high low with
      | some b => b :: percentBytes rest
      | none => Encoding.Utf8.encodeChar '%' ++ percentBytes (high :: low :: rest)
  | c :: rest => Encoding.Utf8.encodeChar c ++ percentBytes rest

def percentDecode (s : String) : String :=
  Encoding.Utf8.decode (percentBytes s.toList)

/-- Unreserved characters and escapes, and nothing else. -/
inductive IsEscaped : List Char → Prop
  | nil : IsEscaped []
  | unreserved {c : Char} {rest : List Char} (h : isUnreserved c = true) (hrest : IsEscaped rest) :
      IsEscaped (c :: rest)
  | escape {high low : Char} {rest : List Char} (h : (escapedByte? high low).isSome = true)
      (hrest : IsEscaped rest) : IsEscaped ('%' :: high :: low :: rest)

/-! ## Escapes -/

theorem hexDigit?_hexDigit {n : Nat} (h : n < 16) : hexDigit? (hexDigit n) = some n := by
  revert n
  decide

theorem escapedByte?_hexDigit (b : UInt8) :
    escapedByte? (hexDigit (b.toNat / 16)) (hexDigit (b.toNat % 16)) = some b := by
  have hb : b.toNat < 256 := b.toNat_lt
  have hsame : 16 * (b.toNat / 16) + b.toNat % 16 = b.toNat := by omega
  rw [escapedByte?, hexDigit?_hexDigit (by omega), hexDigit?_hexDigit (by omega)]
  change some (UInt8.ofNat (16 * (b.toNat / 16) + b.toNat % 16)) = some b
  rw [hsame, UInt8.ofNat_toNat]

theorem percentBytes_percentByte_append (b : UInt8) (rest : List Char) :
    percentBytes (percentByte b ++ rest) = b :: percentBytes rest := by
  simp only [percentByte, List.cons_append, List.nil_append, percentBytes, escapedByte?_hexDigit]

theorem percentBytes_flatMap_append (bytes : Bytes) (rest : List Char) :
    percentBytes (bytes.flatMap percentByte ++ rest) = bytes ++ percentBytes rest := by
  induction bytes with
  | nil => rfl
  | cons b bytes ih =>
      rw [List.flatMap_cons, List.append_assoc, percentBytes_percentByte_append, ih,
        List.cons_append]

theorem isEscaped_flatMap_append (bytes : Bytes) (hrest : IsEscaped rest) :
    IsEscaped (bytes.flatMap percentByte ++ rest) := by
  induction bytes with
  | nil => exact hrest
  | cons b bytes ih =>
      have hbyte : (escapedByte? (hexDigit (b.toNat / 16)) (hexDigit (b.toNat % 16))).isSome =
          true := by
        rw [escapedByte?_hexDigit]
        rfl
      exact .escape hbyte ih

/-! ## Characters -/

theorem ne_percent_of_isUnreserved (h : isUnreserved c = true) : c ≠ '%' := by
  rintro rfl
  contradiction

theorem percentBytes_percentChar_append (c : Char) (rest : List Char) :
    percentBytes (percentChar c ++ rest) = Encoding.Utf8.encodeChar c ++ percentBytes rest := by
  unfold percentChar
  split
  · rename_i hc
    have hne := ne_percent_of_isUnreserved hc
    rw [List.singleton_append, percentBytes]
    intro high low more hpercent
    exact absurd hpercent hne
  · exact percentBytes_flatMap_append _ rest

theorem isEscaped_percentChar_append (c : Char) (hrest : IsEscaped rest) :
    IsEscaped (percentChar c ++ rest) := by
  unfold percentChar
  split
  · rename_i hc
    exact .unreserved hc hrest
  · exact isEscaped_flatMap_append _ hrest

/-! ## Texts -/

theorem toList_percentEncode (s : String) :
    (percentEncode s).toList = s.toList.flatMap percentChar :=
  String.toList_ofList

theorem percentBytes_percentEncode (s : String) :
    percentBytes (percentEncode s).toList = Encoding.Utf8.encode s := by
  rw [toList_percentEncode, Encoding.Utf8.encode]
  induction s.toList with
  | nil => rfl
  | cons c cs ih => rw [List.flatMap_cons, percentBytes_percentChar_append, ih, List.flatMap_cons]

theorem percentDecode_percentEncode (s : String) : percentDecode (percentEncode s) = s := by
  rw [percentDecode, percentBytes_percentEncode, Encoding.Utf8.decode_encode]

theorem isEscaped_percentEncode (s : String) : IsEscaped (percentEncode s).toList := by
  rw [toList_percentEncode]
  induction s.toList with
  | nil => exact .nil
  | cons c cs ih => exact isEscaped_percentChar_append c ih

/-! ## Texts without escapes -/

def HasEscape (cs : List Char) : Prop :=
  ∃ before high low after, cs = before ++ '%' :: high :: low :: after ∧
    (escapedByte? high low).isSome = true

theorem hasEscape_cons_iff {cs : List Char} : HasEscape (c :: cs) ↔
    (∃ high low after, c :: cs = '%' :: high :: low :: after ∧
      (escapedByte? high low).isSome = true) ∨ HasEscape cs := by
  constructor
  · rintro ⟨before, high, low, after, heq, hbyte⟩
    cases before with
    | nil => exact .inl ⟨high, low, after, heq, hbyte⟩
    | cons d before => exact .inr ⟨before, high, low, after, (List.cons.inj heq).2, hbyte⟩
  · rintro (⟨high, low, after, heq, hbyte⟩ | ⟨before, high, low, after, rfl, hbyte⟩)
    · exact ⟨[], high, low, after, heq, hbyte⟩
    · exact ⟨c :: before, high, low, after, rfl, hbyte⟩

theorem not_hasEscape_of_notMem {cs : List Char} (h : '%' ∉ cs) : ¬HasEscape cs := by
  rintro ⟨before, high, low, after, rfl, -⟩
  simp at h

theorem length_decodeList_percentBytes_le (cs : List Char) :
    (Encoding.Utf8.decodeList (percentBytes cs)).length ≤ cs.length := by
  fun_induction percentBytes cs with
  | case1 => simp [Encoding.Utf8.decodeList]
  | case2 high low rest b hbyte ih =>
      have hcons := Encoding.Utf8.length_decodeList_cons_le b (percentBytes rest)
      simp only [List.length_cons]
      omega
  | case3 high low rest hbyte ih =>
      rw [Encoding.Utf8.decodeList_encodeChar_append]
      exact Nat.succ_le_succ ih
  | case4 c rest hpercent ih =>
      rw [Encoding.Utf8.decodeList_encodeChar_append]
      exact Nat.succ_le_succ ih

/-- Three characters of an escape become one at most. -/
theorem length_decodeList_percentBytes_lt {cs : List Char} (h : HasEscape cs) :
    (Encoding.Utf8.decodeList (percentBytes cs)).length < cs.length := by
  fun_induction percentBytes cs with
  | case1 =>
      obtain ⟨before, high, low, after, heq, -⟩ := h
      simp at heq
  | case2 high low rest b hbyte ih =>
      have hcons := Encoding.Utf8.length_decodeList_cons_le b (percentBytes rest)
      have hrest := length_decodeList_percentBytes_le rest
      simp only [List.length_cons]
      omega
  | case3 high low rest hbyte ih =>
      rw [Encoding.Utf8.decodeList_encodeChar_append]
      rcases hasEscape_cons_iff.1 h with ⟨high', low', after, heq, hbyte'⟩ | hrest
      · cases heq
        simp [hbyte] at hbyte'
      · exact Nat.succ_lt_succ (ih hrest)
  | case4 c rest hpercent ih =>
      rw [Encoding.Utf8.decodeList_encodeChar_append]
      rcases hasEscape_cons_iff.1 h with ⟨high, low, after, heq, -⟩ | hrest
      · exact absurd (List.cons.inj heq).2 (hpercent high low after (List.cons.inj heq).1)
      · exact Nat.succ_lt_succ (ih hrest)

theorem percentBytes_of_not_hasEscape {cs : List Char} (h : ¬HasEscape cs) :
    percentBytes cs = cs.flatMap Encoding.Utf8.encodeChar := by
  fun_induction percentBytes cs with
  | case1 => rfl
  | case2 high low rest b hbyte ih =>
      exact absurd ⟨[], high, low, rest, rfl, by rw [hbyte]; rfl⟩ h
  | case3 high low rest hbyte ih =>
      rw [List.flatMap_cons, ih fun hrest => h (hasEscape_cons_iff.2 (.inr hrest))]
  | case4 c rest hpercent ih =>
      rw [List.flatMap_cons, ih fun hrest => h (hasEscape_cons_iff.2 (.inr hrest))]

theorem length_percentDecode_le (s : String) : (percentDecode s).length ≤ s.length := by
  rw [← String.length_toList, ← String.length_toList, percentDecode, Encoding.Utf8.decode,
    String.toList_ofList]
  exact length_decodeList_percentBytes_le s.toList

theorem percentDecode_eq_self_iff {s : String} : percentDecode s = s ↔ ¬HasEscape s.toList := by
  constructor
  · intro heq h
    have hshorter := length_decodeList_percentBytes_lt h
    have hsame : (Encoding.Utf8.decodeList (percentBytes s.toList)) = s.toList := by
      rw [← String.toList_inj, percentDecode, Encoding.Utf8.decode, String.toList_ofList] at heq
      exact heq
    rw [hsame] at hshorter
    exact Nat.lt_irrefl _ hshorter
  · intro h
    rw [percentDecode, percentBytes_of_not_hasEscape h]
    exact Encoding.Utf8.decode_encode s

instance (cs : List Char) : Decidable (HasEscape cs) :=
  decidable_of_iff (percentDecode (String.ofList cs) ≠ String.ofList cs) <| by
    rw [ne_eq, percentDecode_eq_self_iff, Classical.not_not, String.toList_ofList]

/-! ## Signs -/

/-- A character that is none of those of escapes and not unreserved. -/
structure IsSign (c : Char) : Prop where
  reserved : isUnreserved c = false
  ne_percent : c ≠ '%'
  no_digit : hexDigit? c = none

instance (c : Char) : Decidable (IsSign c) :=
  decidable_of_iff (isUnreserved c = false ∧ c ≠ '%' ∧ hexDigit? c = none)
    ⟨fun ⟨h₁, h₂, h₃⟩ => ⟨h₁, h₂, h₃⟩, fun h => ⟨h.reserved, h.ne_percent, h.no_digit⟩⟩

theorem notMem_of_isEscaped {cs : List Char} (h : IsEscaped cs) (hsign : IsSign c) : c ∉ cs := by
  induction h with
  | nil => exact List.not_mem_nil
  | @unreserved d rest hd _ ih =>
      have hne : c ≠ d := by
        rintro rfl
        cases hd.symm.trans hsign.reserved
      exact List.not_mem_cons_of_ne_of_not_mem hne ih
  | @escape high low rest hbyte _ ih =>
      have hhigh : c ≠ high := by
        rintro rfl
        simp [escapedByte?, hsign.no_digit] at hbyte
      have hlow : c ≠ low := by
        rintro rfl
        simp [escapedByte?, hsign.no_digit] at hbyte
      simp [hsign.ne_percent, hhigh, hlow, ih]

end Feuilleton.Address
