import Feuilleton.Page.Basic
import Feuilleton.Proofs.Encoding.Label
import Feuilleton.Proofs.Success

/-!
# Undecodable pages

Bytes that are not in the encoding they declare still become text. Only three encodings can refuse
bytes: two that decode nothing, and one whose inserted part is ASCII. Every page that declares
another encoding, or none that is known, is read.
-/

namespace Feuilleton

namespace Encoding

variable {encoding : Encoding} {bytes : Bytes}

/-- The encoding is known and does not decode the bytes. -/
inductive Refuses : Encoding → Bytes → Prop
  | undefined {bytes : Bytes} (h : bytes ≠ []) : Refuses .undefined bytes
  | hostNames {bytes : Bytes} (h : bytes ≠ []) : Refuses .hostNames bytes
  | punycode {bytes : Bytes} {byte : UInt8} (h : byte ∈ (Punycode.split bytes).2)
      (hbyte : 0x80 ≤ byte) : Refuses .punycode bytes

namespace Punycode

theorem isSome_foreignByte?_iff :
    (foreignByte? bytes).isSome = true ↔ ∃ byte ∈ (split bytes).2, 0x80 ≤ byte := by
  unfold foreignByte?
  rw [List.find?_isSome]
  constructor
  · rintro ⟨⟨byte, position⟩, hmem, hforeign⟩
    exact ⟨byte, List.fst_mem_of_mem_zipIdx hmem, of_decide_eq_true hforeign⟩
  · rintro ⟨byte, hbyte, hforeign⟩
    obtain ⟨position, hposition⟩ := List.mem_iff_getElem?.1 hbyte
    have hmem := List.mk_mem_zipIdx_iff_getElem?.2 hposition
    exact ⟨(byte, position), hmem, decide_eq_true hforeign⟩

end Punycode

theorem exists_error_of_refuses (h : encoding.Refuses bytes) :
    ∃ error, encoding.decodeList bytes = .error error := by
  cases h with
  | undefined h => exact ⟨_, if_neg (by simpa using h)⟩
  | hostNames h => exact ⟨_, if_neg (by simpa using h)⟩
  | punycode h hbyte =>
      have hsome := Punycode.isSome_foreignByte?_iff.2 ⟨_, h, hbyte⟩
      obtain ⟨foreign, hforeign⟩ := Option.isSome_iff_exists.1 hsome
      refine ⟨.foreignByte (Punycode.faultOf foreign.1) foreign.2, ?_⟩
      simp only [decodeList, hforeign]

theorem refuses_of_error {error : EncodingError}
    (h : encoding.decodeList bytes = .error error) : encoding.Refuses bytes := by
  cases encoding with
  | undefined =>
      refine .undefined ?_
      rintro rfl
      cases h
  | hostNames =>
      refine .hostNames ?_
      rintro rfl
      cases h
  | punycode =>
      cases hforeign : Punycode.foreignByte? bytes with
      | none =>
          simp only [decodeList, hforeign] at h
          cases h
      | some foreign =>
          have hsome := Option.isSome_of_eq_some hforeign
          obtain ⟨byte, hmem, hbyte⟩ := Punycode.isSome_foreignByte?_iff.1 hsome
          exact .punycode hmem hbyte
  | utf16 order => cases order <;> cases h
  | utf32 order => cases order <;> cases h
  | escaped raw => cases raw <;> cases h
  | utf8 | utf8Marked | utf7 | singleByte table | eastAsian encoding => cases h

theorem decodeList_eq_error_iff :
    (∃ error, encoding.decodeList bytes = .error error) ↔ encoding.Refuses bytes :=
  ⟨fun ⟨_, h⟩ => refuses_of_error h, exists_error_of_refuses⟩

theorem decode_eq_error_iff :
    (∃ error, encoding.decode bytes = .error error) ↔ encoding.Refuses bytes := by
  simp only [decode, map_eq_error_iff, decodeList_eq_error_iff]

end Encoding

namespace Page

variable {bytes : Encoding.Bytes}

/-- The page declares an encoding that refuses it. -/
def IsUndecodable (bytes : Encoding.Bytes) : Prop :=
  ∃ encoding, Encoding.ofLabel? (Encoding.declaredLabel bytes) = some encoding ∧
    encoding.Refuses bytes

theorem ofBytes_eq_error_iff :
    (∃ error, ofBytes bytes = .error error) ↔ IsUndecodable bytes := by
  unfold IsUndecodable ofBytes decodeDeclared
  simp only [map_eq_error_iff]
  cases Encoding.ofLabel? (Encoding.declaredLabel bytes) with
  | none => simp
  | some encoding => simp [map_eq_error_iff, Encoding.decode_eq_error_iff]

/-! ## Declarations -/

/-- The page declares, in some spelling, one of the encodings that decode nothing, or the one whose
inserted part is ASCII although behind its last hyphen stands a byte that is not. -/
inductive DeclaresUndecodable (bytes : Encoding.Bytes) : Prop
  | undefined (h : Encoding.normalizeLabel (Encoding.declaredLabel bytes) = "undefined")
  | hostNames (h : Encoding.normalizeLabel (Encoding.declaredLabel bytes) = "idna")
  | punycode {byte : UInt8}
      (h : Encoding.normalizeLabel (Encoding.declaredLabel bytes) = "punycode")
      (hmem : byte ∈ (Encoding.Punycode.split bytes).2) (hbyte : 0x80 ≤ byte)

theorem declaredLabel_nil : Encoding.declaredLabel [] = Encoding.defaultLabel := by
  decide +kernel

theorem isUndecodable_iff : IsUndecodable bytes ↔ DeclaresUndecodable bytes := by
  constructor
  · rintro ⟨encoding, hlabel, hrefuses⟩
    cases hrefuses with
    | undefined => exact .undefined ((Encoding.ofLabel?_eq_some_iff rfl).1 hlabel)
    | hostNames => exact .hostNames ((Encoding.ofLabel?_eq_some_iff rfl).1 hlabel)
    | punycode hmem hbyte =>
        exact .punycode ((Encoding.ofLabel?_eq_some_iff rfl).1 hlabel) hmem hbyte
  · intro h
    -- a page without bytes declares nothing
    have hbytes : ∀ {encoding : Encoding},
        Encoding.ofLabel? (Encoding.declaredLabel bytes) = some encoding →
        encoding ≠ .utf8 → bytes ≠ [] := by
      rintro encoding hlabel hencoding rfl
      rw [declaredLabel_nil, Encoding.ofLabel?_defaultLabel] at hlabel
      exact hencoding (Option.some.inj hlabel).symm
    cases h with
    | undefined h =>
        have hlabel : Encoding.ofLabel? (Encoding.declaredLabel bytes) = some .undefined :=
          (Encoding.ofLabel?_eq_some_iff rfl).2 h
        exact ⟨_, hlabel, .undefined (hbytes hlabel (by decide))⟩
    | hostNames h =>
        have hlabel : Encoding.ofLabel? (Encoding.declaredLabel bytes) = some .hostNames :=
          (Encoding.ofLabel?_eq_some_iff rfl).2 h
        exact ⟨_, hlabel, .hostNames (hbytes hlabel (by decide))⟩
    | punycode h hmem hbyte =>
        have hlabel : Encoding.ofLabel? (Encoding.declaredLabel bytes) = some .punycode :=
          (Encoding.ofLabel?_eq_some_iff rfl).2 h
        exact ⟨_, hlabel, .punycode hmem hbyte⟩

/-- The bytes are read as a page. -/
def IsRead (bytes : Encoding.Bytes) : Prop :=
  ∃ page, ofBytes bytes = .ok page

/-- All bytes are read but those that declare an encoding which refuses them. -/
theorem isRead_iff (bytes : Encoding.Bytes) : IsRead bytes ↔ ¬DeclaresUndecodable bytes := by
  rw [← isUndecodable_iff, ← ofBytes_eq_error_iff]
  constructor
  · rintro ⟨page, hpage⟩ ⟨error, herror⟩
    cases hpage.symm.trans herror
  · intro h
    cases hread : ofBytes bytes with
    | error error => exact absurd ⟨error, hread⟩ h
    | ok page => exact ⟨page, hread⟩

theorem not_isRead_undefined : ¬IsRead (Encoding.Utf8.encode "<meta charset=undefined>") := by
  rintro ⟨page, hpage⟩
  have hfails : (ofBytes (Encoding.Utf8.encode "<meta charset=undefined>")).isOk = false := by
    decide +kernel
  rw [hpage] at hfails
  cases hfails

end Page

end Feuilleton
