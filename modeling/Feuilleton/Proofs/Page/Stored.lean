import Feuilleton.Proofs.Encoding.Label
import Feuilleton.Proofs.Encoding.Utf8
import Feuilleton.Session.Reading

/-!
# Stored pages

A page that was stored in UTF-8 is read as the text that was stored, unless it declares another
encoding. What the search for a declaration leaves of the bytes does not matter, not even where it
breaks off within a character.
-/

namespace Feuilleton.Page

open Encoding

/-- The bytes in which a text is stored. -/
def stored (s : String) : Bytes :=
  s.toByteArray.data.toList

theorem stored_eq_encode (s : String) : stored s = Utf8.encode s :=
  (Utf8.encode_eq_toByteArray s).symm

/-- No character is a single surrogate. -/
theorem ofCodePoints_toNat (s : String) : ofCodePoints (s.toList.map Char.toNat) = s := by
  rw [ofCodePoints, List.map_map]
  have hsame : ∀ c ∈ s.toList,
      ((fun n => if n.isValidChar then Char.ofNat n else '?') ∘ Char.toNat) c = c := by
    intro c _
    have hvalid : c.toNat.isValidChar := c.valid
    simp only [Function.comp_apply, if_pos hvalid, Char.ofNat_toNat]
  rw [List.map_congr_left hsame, List.map_id', String.ofList_toList]

theorem decodeDeclared_stored {s : String} (h : declaredLabel (stored s) = defaultLabel) :
    decodeDeclared (stored s) = .ok (s, defaultLabel) := by
  unfold decodeDeclared
  dsimp only
  rw [h, ofLabel?_defaultLabel]
  simp [decode, Encoding.decodeList, stored_eq_encode, Utf8.decodeList_encode, Except.map]

/-- The stored bytes and the code points of a text are one page, of which every reader makes the
same work. -/
theorem ofBytes_stored {s : String} (h : declaredLabel (stored s) = defaultLabel) :
    ofBytes (stored s) = .ok (ofText (ofCodePoints (s.toList.map Char.toNat))) ∧
      ∀ (r : Reader) (path : String), r.readBytes (stored s) path =
        r.readText (ofCodePoints (s.toList.map Char.toNat)) path := by
  have hpage : ofBytes (stored s) = .ok (ofText s) := by
    rw [ofBytes, decodeDeclared_stored h]
    rfl
  rw [ofCodePoints_toNat]
  refine ⟨hpage, fun r path => ?_⟩
  rw [Reader.readBytes, hpage]
  rfl

/-- The search for a declaration ends between the two bytes of the last character. -/
private def cutPage : String :=
  String.ofList ("<meta charset=utf-8>".toList ++ List.replicate 2027 ' ' ++ ['é'])

theorem ofBytes_stored_cutPage :
    declaredLabel (stored cutPage) = defaultLabel ∧
      (stored cutPage).drop headBytes = [0xA9] ∧
      ofBytes (stored cutPage) =
        .ok (ofText (ofCodePoints (cutPage.toList.map Char.toNat))) := by
  have hbytes : stored cutPage =
      ("<meta charset=utf-8>".toList ++ List.replicate 2027 ' ' ++ ['é']).flatMap
        Utf8.encodeChar := by
    rw [stored_eq_encode]
    unfold Utf8.encode cutPage
    rw [String.toList_ofList]
  have hlabel : declaredLabel (stored cutPage) = defaultLabel := by
    rw [hbytes]
    decide +kernel
  have hrest : (stored cutPage).drop headBytes = [0xA9] := by
    rw [hbytes]
    decide +kernel
  exact ⟨hlabel, hrest, (ofBytes_stored hlabel).1⟩

end Feuilleton.Page
