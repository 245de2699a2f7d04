import Feuilleton.Encoding.Basic
import Feuilleton.Encoding.Declared

/-!
# Labels of single encodings

An encoding that can refuse bytes has no label besides its own name. A label therefore tells, once
its spelling is normalized, whether it names such an encoding.
-/

namespace Feuilleton.Encoding

variable {encoding : Encoding} {label name : String}

theorem ofLabel?_defaultLabel : ofLabel? defaultLabel = some .utf8 := by
  decide +kernel

/-- The label, but for its spelling, of an encoding that can refuse bytes. -/
def onlyLabel? : Encoding → Option String
  | undefined => some "undefined"
  | hostNames => some "idna"
  | punycode => some "punycode"
  | _ => none

theorem ofName?_eq_some_iff (h : encoding.onlyLabel? = some label) :
    ofName? name = some encoding ↔ name = label := by
  constructor
  · intro hname
    unfold ofName? at hname
    split at hname
    case h_15 =>
      -- no table is one of these encodings
      rcases Option.or_eq_some_iff.1 hname with htable | ⟨-, hset⟩
      · obtain ⟨table, -, rfl⟩ := Option.map_eq_some_iff.1 htable
        cases h
      · obtain ⟨eastAsian, -, rfl⟩ := Option.map_eq_some_iff.1 hset
        cases h
    all_goals
      obtain rfl := Option.some.inj hname
      cases h
    all_goals rfl
  · rintro rfl
    cases encoding <;> cases h <;> rfl

theorem nameOfLabel?_of_onlyLabel? (h : encoding.onlyLabel? = some name) :
    normalizeLabel name = name ∧ nameOfLabel? name = some name := by
  cases encoding <;> cases h <;> decide +kernel

theorem labels_of_onlyLabel? (h : encoding.onlyLabel? = some name) :
    ∀ labels ∈ labelTable, labels.name = name → labels.dotted = [] ∧ labels.plain = [name] := by
  cases encoding <;> cases h <;> decide +kernel

theorem nameOfLabel?_eq_some_iff (h : encoding.onlyLabel? = some name) :
    nameOfLabel? label = some name ↔ normalizeLabel label = name := by
  constructor
  · intro hlabel
    obtain ⟨labels, hfind, hname⟩ := Option.map_eq_some_iff.1 hlabel
    have hmem := List.mem_of_find?_eq_some hfind
    obtain ⟨hdotted, hplain⟩ := labels_of_onlyLabel? h labels hmem hname
    have hfound := List.find?_some hfind
    simpa [hdotted, hplain] using hfound
  · intro hlabel
    obtain ⟨hnormal, hnamed⟩ := nameOfLabel?_of_onlyLabel? h
    unfold nameOfLabel? at hnamed ⊢
    rw [hlabel]
    rwa [hnormal] at hnamed

theorem ofLabel?_eq_some_iff (h : encoding.onlyLabel? = some name) :
    ofLabel? label = some encoding ↔ normalizeLabel label = name := by
  rw [← nameOfLabel?_eq_some_iff h, ofLabel?, Option.bind_eq_some_iff]
  simp [ofName?_eq_some_iff h]

end Feuilleton.Encoding
