import Feuilleton.Json.Printer
import Feuilleton.Json.Reader

/-!
# Reading back what was written

A value without numbers that is nested no deeper than the reader goes comes back from its text, on
one line or indented: the layouts differ in their blanks, which the reader skips. It stops right
behind the value, whatever follows, so the texts of items and members can be read one after the
other.
-/

namespace Feuilleton.Json

/-! ## Strings -/

theorem hexDigit?_digitChar : ∀ d < 16, hexDigit? (Nat.digitChar d) = some d := by
  decide

theorem toList_hexPadded_four : ∀ n < 0x20,
    (Text.hexPadded 4 n).toList = ['0', '0', Nat.digitChar (n / 16), Nat.digitChar (n % 16)] := by
  simp only [Text.hexPadded, String.toList_ofList]
  decide

theorem hexQuad?_digitChar {n : Nat} (h : n < 0x100) :
    hexQuad? '0' '0' (Nat.digitChar (n / 16)) (Nat.digitChar (n % 16)) = some n := by
  have hzero : hexDigit? '0' = some 0 := by decide
  have hhigh := hexDigit?_digitChar (n / 16) (by omega)
  have hlow := hexDigit?_digitChar (n % 16) (by omega)
  simp only [hexQuad?, hzero, hhigh, hlow, Option.bind_eq_bind, Option.bind_some]
  congr 1
  omega

/-- A character is written as a backslash with a letter, by its code, or as itself. -/
theorem escapeChar_cases (c : Char) :
    (∃ letter, letter ≠ 'u' ∧ simpleEscape? letter = some c ∧ escapeChar c = ['\\', letter]) ∨
      (c.toNat < 0x20 ∧ escapeChar c = '\\' :: 'u' :: (Text.hexPadded 4 c.toNat).toList) ∨
      (c ≠ '"' ∧ c ≠ '\\' ∧ ¬ c.toNat < 0x20 ∧ escapeChar c = [c]) := by
  unfold escapeChar
  -- the quote, the backslash and the five control characters that have a letter
  iterate 7
    split
    · subst_vars
      exact .inl ⟨_, by decide, by decide, rfl⟩
  rename_i hquote hbackslash _ _ _ _ _
  split
  · rename_i hcontrol
    exact .inr (.inl ⟨hcontrol, rfl⟩)
  · rename_i hcontrol
    exact .inr (.inr ⟨hquote, hbackslash, hcontrol, rfl⟩)

theorem readString_simpleEscape {letter c : Char} (done rest : List Char) (hunit : letter ≠ 'u')
    (h : simpleEscape? letter = some c) :
    readString done ('\\' :: letter :: rest) = readString (c :: done) rest := by
  rw [readString]
  · rw [h]
  · rintro _ _ _ _ _ rfl _
    exact hunit rfl

theorem readString_hexPadded {c : Char} (done rest : List Char) (h : c.toNat < 0x20) :
    readString done ('\\' :: 'u' :: (Text.hexPadded 4 c.toNat).toList ++ rest) =
      readString (c :: done) rest := by
  have hquad := hexQuad?_digitChar (n := c.toNat) (by omega)
  have hhigh : ¬ (0xD800 ≤ c.toNat ∧ c.toNat < 0xDC00) := by omega
  have hlow : ¬ (0xDC00 ≤ c.toNat ∧ c.toNat < 0xE000) := by omega
  rw [toList_hexPadded_four c.toNat h]
  simp only [List.cons_append, List.nil_append]
  rw [readString]
  simp only [hquad, hhigh, hlow, ↓reduceIte, Char.ofNat_toNat]

theorem readString_plain {c : Char} (done rest : List Char) (hquote : c ≠ '"')
    (hbackslash : c ≠ '\\') (hcontrol : ¬ c.toNat < 0x20) :
    readString done (c :: rest) = readString (c :: done) rest := by
  rw [readString]
  · rw [if_neg hcontrol]
  all_goals grind

theorem readString_escapeChar (done : List Char) (c : Char) (rest : List Char) :
    readString done (escapeChar c ++ rest) = readString (c :: done) rest := by
  obtain ⟨letter, hunit, h, heq⟩ | ⟨hcontrol, heq⟩ | ⟨hquote, hbackslash, hcontrol, heq⟩ :=
    escapeChar_cases c
  · rw [heq]
    exact readString_simpleEscape done rest hunit h
  · rw [heq]
    exact readString_hexPadded done rest hcontrol
  · rw [heq]
    exact readString_plain done rest hquote hbackslash hcontrol

theorem readString_flatMap_escapeChar (done cs rest : List Char) :
    readString done (cs.flatMap escapeChar ++ '"' :: rest) =
      some (String.ofList (done.reverse ++ cs), rest) := by
  induction cs generalizing done with
  | nil => simp [readString]
  | cons c cs ih =>
      rw [List.flatMap_cons, List.append_assoc, readString_escapeChar, ih]
      simp

theorem readScalar_stringChars (s : String) (rest : List Char) :
    readScalar (stringChars s ++ rest) = some (str s, rest) := by
  simp [readScalar, stringChars, readString_flatMap_escapeChar]

/-! ## Blanks -/

theorem skipSpace_append {space : List Char} (h : ∀ c ∈ space, isSpace c) (cs : List Char) :
    skipSpace (space ++ cs) = skipSpace cs :=
  List.dropWhile_append_of_pos h

theorem skipSpace_cons {c : Char} (h : isSpace c = false) (cs : List Char) :
    skipSpace (c :: cs) = c :: cs :=
  List.dropWhile_cons_of_neg (by simp [h])

theorem isSpace_of_mem_lineBreak {level : Nat} : ∀ c ∈ lineBreak level, isSpace c := by
  intro c hc
  obtain rfl | ⟨-, rfl⟩ := by simpa [lineBreak] using hc
  all_goals decide

theorem readValue_space {space : List Char} (h : ∀ c ∈ space, isSpace c) (steps depth : Nat)
    (cs : List Char) : readValue steps depth (space ++ cs) = readValue steps depth cs := by
  cases steps <;> simp [readValue, skipSpace_append h]

theorem readItems_space {space : List Char} (h : ∀ c ∈ space, isSpace c) (steps depth : Nat)
    (cs : List Char) : readItems steps depth (space ++ cs) = readItems steps depth cs := by
  cases steps <;> simp [readItems, readValue_space h]

theorem readMembers_space {space : List Char} (h : ∀ c ∈ space, isSpace c) (steps depth : Nat)
    (cs : List Char) : readMembers steps depth (space ++ cs) = readMembers steps depth cs := by
  cases steps <;> simp [readMembers, skipSpace_append h]

theorem readItems_skipSpace (steps depth : Nat) (cs : List Char) :
    readItems steps depth (skipSpace cs) = readItems steps depth cs := by
  have hblank : ∀ c ∈ cs.takeWhile isSpace, isSpace c := List.all_eq_true.1 List.all_takeWhile
  rw [← readItems_space hblank, skipSpace, List.takeWhile_append_dropWhile]

/-! ## Values -/

/-- A plain value holds no numbers, and its containers are nested at most `depth` deep. -/
inductive Plain : Nat → Json → Prop
  | null {depth : Nat} : Plain depth null
  | bool {depth : Nat} (value : Bool) : Plain depth (bool value)
  | str {depth : Nat} (s : String) : Plain depth (str s)
  | arr {depth : Nat} {items : List Json} (h : ∀ item ∈ items, Plain depth item) :
      Plain (depth + 1) (arr items)
  | obj {depth : Nat} {members : List (String × Json)}
      (h : ∀ member ∈ members, Plain depth member.2) : Plain (depth + 1) (obj members)

theorem plain_ofStrings {depth : Nat} (texts : List String) :
    Plain (depth + 1) (ofStrings texts) := by
  refine .arr fun item hitem => ?_
  obtain ⟨s, -, rfl⟩ := List.mem_map.1 hitem
  exact .str s

theorem plain_ofOption {α : Type} {depth : Nat} {encode : α → Json}
    (h : ∀ value, Plain depth (encode value)) (value? : Option α) :
    Plain depth (ofOption encode value?) := by
  cases value? with
  | none => exact .null
  | some value => exact h value

/-- Every text that begins with these characters is read as the value and the remainder, within
twice as many steps as there are characters. -/
def ReadsBack (depth : Nat) (value : Json) (chars : List Char) : Prop :=
  ∀ steps rest, 2 * chars.length < steps →
    readValue steps depth (chars ++ rest) = some (value, rest)

theorem readsBack_of_scalar {depth : Nat} {value : Json} {c : Char} {cs : List Char}
    (hspace : isSpace c = false) (harr : c ≠ '[') (hobj : c ≠ '\x7b')
    (hscalar : ∀ rest, readScalar (c :: cs ++ rest) = some (value, rest)) :
    ReadsBack depth value (c :: cs) := by
  intro steps rest hsteps
  obtain ⟨steps, rfl⟩ : ∃ n, steps = n + 1 := ⟨steps - 1, by omega⟩
  specialize hscalar rest
  rw [List.cons_append] at *
  rw [readValue, skipSpace_cons hspace]
  split <;> simp_all

theorem readsBack_null {depth : Nat} : ReadsBack depth null "null".toList :=
  readsBack_of_scalar (by decide) (by decide) (by decide) fun _ => rfl

theorem readsBack_bool {depth : Nat} (value : Bool) :
    ReadsBack depth (bool value) (compactChars (bool value)) := by
  cases value <;> exact readsBack_of_scalar (by decide) (by decide) (by decide) fun _ => rfl

theorem readsBack_str {depth : Nat} (s : String) : ReadsBack depth (str s) (stringChars s) :=
  readsBack_of_scalar (by decide) (by decide) (by decide) (readScalar_stringChars s)

/-- The end of a list is no value. -/
theorem exists_skipSpace_of_readValue {steps depth : Nat} {cs : List Char}
    {result : Json × List Char} (h : readValue steps depth cs = some result) :
    ∃ c tail, skipSpace cs = c :: tail ∧ c ≠ ']' := by
  cases steps with
  | zero => cases h
  | succ steps =>
      rw [readValue] at h
      cases hcs : skipSpace cs with
      | nil =>
          rw [hcs] at h
          cases h
      | cons c tail =>
          refine ⟨c, tail, rfl, ?_⟩
          rintro rfl
          rw [hcs] at h
          simp [readScalar, readMagnitude, takeDigits, isDecimal] at h

/-! ## Containers

Of the layout of a container the blanks are open: those behind its opening bracket, behind each
comma, behind the colon of a member, and before the closing bracket. -/

section Layout

variable {depth : Nat} {chars : Json → List Char} {lead gap space outer : List Char}

def memberChars (space : List Char) (chars : Json → List Char) (member : String × Json) :
    List Char :=
  stringChars member.1 ++ ':' :: (space ++ chars member.2)

theorem readItems_intercalate (hgap : ∀ c ∈ gap, isSpace c) (houter : ∀ c ∈ outer, isSpace c)
    {items : List Json} (hne : items ≠ [])
    (hitems : ∀ item ∈ items, ReadsBack depth item (chars item)) (steps : Nat) (rest : List Char)
    (hsteps : 2 * (List.intercalate (',' :: gap) (items.map chars)).length + 1 < steps) :
    readItems steps depth
        (List.intercalate (',' :: gap) (items.map chars) ++ (outer ++ ']' :: rest)) =
      some (items, rest) := by
  induction items generalizing steps with
  | nil => exact absurd rfl hne
  | cons item items ih =>
      obtain ⟨steps, rfl⟩ : ∃ n, steps = n + 1 := ⟨steps - 1, by omega⟩
      have hitem := hitems item List.mem_cons_self
      cases items with
      | nil =>
          simp only [List.map_cons, List.map_nil, List.intercalate_singleton] at hsteps ⊢
          rw [readItems, hitem steps _ (by omega)]
          simp only [skipSpace_append houter, skipSpace_cons (c := ']') (by decide)]
      | cons next items =>
          -- the comma pays for the step that leads to the next item
          simp only [List.map_cons, List.intercalate_cons_cons, List.length_append,
            List.length_cons] at hsteps
          have htail := ih (by simp) (fun other h => hitems other (List.mem_cons_of_mem _ h)) steps
            (by simp only [List.map_cons]; omega)
          simp only [List.map_cons, List.intercalate_cons_cons, List.append_assoc,
            List.cons_append] at htail ⊢
          rw [readItems, hitem steps _ (by omega)]
          simp only [skipSpace_cons (c := ',') (by decide)]
          rw [readItems_space hgap, htail]
          rfl

theorem readMembers_last {steps : Nat} {member : String × Json} {cs rest tail : List Char}
    (hspace : ∀ c ∈ space, isSpace c)
    (hvalue : readValue steps depth (chars member.2 ++ cs) = some (member.2, rest))
    (hend : skipSpace rest = '\x7d' :: tail) :
    readMembers (steps + 1) depth (memberChars space chars member ++ cs) =
      some ([member], tail) := by
  simp only [readMembers, memberChars, stringChars, List.cons_append, List.append_assoc,
    List.nil_append, skipSpace_cons (c := '"') (by decide), skipSpace_cons (c := ':') (by decide),
    readString_flatMap_escapeChar, List.reverse_nil, String.ofList_toList,
    readValue_space hspace, hvalue, hend]

theorem readMembers_next {steps : Nat} {member : String × Json} {members : List (String × Json)}
    {cs rest tail after : List Char} (hspace : ∀ c ∈ space, isSpace c)
    (hvalue : readValue steps depth (chars member.2 ++ cs) = some (member.2, rest))
    (hnext : skipSpace rest = ',' :: tail)
    (htail : readMembers steps depth tail = some (members, after)) :
    readMembers (steps + 1) depth (memberChars space chars member ++ cs) =
      some (member :: members, after) := by
  simp only [readMembers, memberChars, stringChars, List.cons_append, List.append_assoc,
    List.nil_append, skipSpace_cons (c := '"') (by decide), skipSpace_cons (c := ':') (by decide),
    readString_flatMap_escapeChar, List.reverse_nil, String.ofList_toList,
    readValue_space hspace, hvalue, hnext, htail, Option.map_some]

theorem readMembers_intercalate (hgap : ∀ c ∈ gap, isSpace c) (hspace : ∀ c ∈ space, isSpace c)
    (houter : ∀ c ∈ outer, isSpace c) {members : List (String × Json)} (hne : members ≠ [])
    (hmembers : ∀ member ∈ members, ReadsBack depth member.2 (chars member.2)) (steps : Nat)
    (rest : List Char)
    (hsteps : 2 * (List.intercalate (',' :: gap)
      (members.map (memberChars space chars))).length + 1 < steps) :
    readMembers steps depth
        (List.intercalate (',' :: gap) (members.map (memberChars space chars)) ++
          (outer ++ '\x7d' :: rest)) =
      some (members, rest) := by
  induction members generalizing steps with
  | nil => exact absurd rfl hne
  | cons member members ih =>
      obtain ⟨steps, rfl⟩ : ∃ n, steps = n + 1 := ⟨steps - 1, by omega⟩
      have hvalue := hmembers member List.mem_cons_self
      have hlength : (chars member.2).length ≤ (memberChars space chars member).length := by
        simp only [memberChars, List.length_append, List.length_cons]
        omega
      cases members with
      | nil =>
          simp only [List.map_cons, List.map_nil, List.intercalate_singleton] at hsteps ⊢
          refine readMembers_last hspace (hvalue steps _ (by omega)) ?_
          rw [skipSpace_append houter, skipSpace_cons (by decide)]
      | cons next members =>
          simp only [List.map_cons, List.intercalate_cons_cons, List.length_append,
            List.length_cons] at hsteps
          have htail := ih (by simp) (fun other h => hmembers other (List.mem_cons_of_mem _ h))
            steps (by simp only [List.map_cons]; omega)
          simp only [List.map_cons, List.intercalate_cons_cons, List.append_assoc,
            List.cons_append] at htail ⊢
          refine readMembers_next hspace (hvalue steps _ (by omega))
            (skipSpace_cons (by decide) _) ?_
          rw [readMembers_space hgap, htail]

theorem readsBack_arr_nil : ReadsBack (depth + 1) (arr []) ['[', ']'] := by
  intro steps rest hsteps
  obtain ⟨steps, rfl⟩ : ∃ n, steps = n + 1 := ⟨steps - 1, by omega⟩
  rfl

theorem readsBack_obj_nil : ReadsBack (depth + 1) (obj []) ['\x7b', '\x7d'] := by
  intro steps rest hsteps
  obtain ⟨steps, rfl⟩ : ∃ n, steps = n + 1 := ⟨steps - 1, by omega⟩
  rfl

theorem readsBack_arr (hlead : ∀ c ∈ lead, isSpace c) (hgap : ∀ c ∈ gap, isSpace c)
    (houter : ∀ c ∈ outer, isSpace c) {items : List Json} (hne : items ≠ [])
    (hitems : ∀ item ∈ items, ReadsBack depth item (chars item)) :
    ReadsBack (depth + 1) (arr items)
      ('[' :: (lead ++ List.intercalate (',' :: gap) (items.map chars) ++ outer ++ [']'])) := by
  intro steps rest hsteps
  obtain ⟨steps, rfl⟩ : ∃ n, steps = n + 1 := ⟨steps - 1, by omega⟩
  simp only [List.length_cons, List.length_append] at hsteps
  have hread := readItems_intercalate hgap houter hne hitems steps rest (by omega)
  simp only [List.cons_append, List.append_assoc, List.nil_append]
  generalize hcs : List.intercalate (',' :: gap) (items.map chars) ++ (outer ++ ']' :: rest) = cs
    at hread ⊢
  -- the reader looks for the end of the list before it reads the first item
  obtain ⟨c, tail, hhead, hc⟩ : ∃ c tail, skipSpace cs = c :: tail ∧ c ≠ ']' := by
    cases steps with
    | zero => cases hread
    | succ steps =>
        rw [readItems] at hread
        cases hvalue : readValue steps depth cs with
        | none => simp [hvalue] at hread
        | some result => exact exists_skipSpace_of_readValue hvalue
  have hskip : readItems steps depth (c :: tail) = some (items, rest) := by
    rw [← hhead, readItems_skipSpace, hread]
  rw [readValue, skipSpace_cons (by decide)]
  simp only [skipSpace_append hlead, hhead]
  split <;> simp_all

theorem readsBack_obj (hlead : ∀ c ∈ lead, isSpace c) (hgap : ∀ c ∈ gap, isSpace c)
    (hspace : ∀ c ∈ space, isSpace c) (houter : ∀ c ∈ outer, isSpace c)
    {members : List (String × Json)} (hne : members ≠ [])
    (hmembers : ∀ member ∈ members, ReadsBack depth member.2 (chars member.2)) :
    ReadsBack (depth + 1) (obj members)
      ('\x7b' :: (lead ++ List.intercalate (',' :: gap) (members.map (memberChars space chars)) ++
        outer ++ ['\x7d'])) := by
  intro steps rest hsteps
  obtain ⟨steps, rfl⟩ : ∃ n, steps = n + 1 := ⟨steps - 1, by omega⟩
  simp only [List.length_cons, List.length_append] at hsteps
  have hread := readMembers_intercalate hgap hspace houter hne hmembers steps rest (by omega)
  obtain ⟨tail, hhead⟩ : ∃ tail,
      List.intercalate (',' :: gap) (members.map (memberChars space chars)) = '"' :: tail := by
    obtain ⟨member, members, rfl⟩ := List.exists_cons_of_ne_nil hne
    cases members <;> simp [memberChars, stringChars]
  simp only [List.cons_append, List.append_assoc, List.nil_append]
  rw [hhead, List.cons_append] at hread ⊢
  rw [readValue, skipSpace_cons (by decide)]
  simp only [skipSpace_append hlead, skipSpace_cons (c := '"') (by decide)]
  split <;> simp_all

end Layout

/-! ## Texts -/

theorem indentedItems_eq (level : Nat) (items : List Json) : indentedItems level items =
    List.intercalate (',' :: lineBreak level) (items.map (indentedChars level)) := by
  induction items with
  | nil => rfl
  | cons item items ih =>
      cases items with
      | nil => simp [indentedItems]
      | cons next items => simp [indentedItems, ih]

theorem indentedMembers_eq (level : Nat) (members : List (String × Json)) :
    indentedMembers level members =
      List.intercalate (',' :: lineBreak level)
        (members.map (memberChars [' '] (indentedChars level))) := by
  induction members with
  | nil => rfl
  | cons member members ih =>
      cases members with
      | nil => simp [indentedMembers, memberChars]
      | cons next members => simp [indentedMembers, memberChars, ih]

theorem compactItems_eq (items : List Json) :
    compactItems items = List.intercalate [','] (items.map compactChars) := by
  induction items with
  | nil => rfl
  | cons item items ih =>
      cases items with
      | nil => simp [compactItems]
      | cons next items => simp [compactItems, ih]

theorem compactMembers_eq (members : List (String × Json)) :
    compactMembers members =
      List.intercalate [','] (members.map (memberChars [] compactChars)) := by
  induction members with
  | nil => rfl
  | cons member members ih =>
      cases members with
      | nil => simp [compactMembers, memberChars]
      | cons next members => simp [compactMembers, memberChars, ih]

theorem Plain.readsBack_indented {depth : Nat} {value : Json} (h : Plain depth value)
    (level : Nat) : ReadsBack depth value (value.indentedChars level) := by
  induction h generalizing level with
  | null => exact readsBack_null
  | bool value => cases value <;> exact readsBack_bool _
  | str s => exact readsBack_str s
  | @arr _ items _ ih =>
      cases items with
      | nil => exact readsBack_arr_nil
      | cons item items =>
          rw [indentedChars, indentedItems_eq]
          exact readsBack_arr isSpace_of_mem_lineBreak isSpace_of_mem_lineBreak
            isSpace_of_mem_lineBreak (by simp) fun item h => ih item h (level + 1)
  | @obj _ members _ ih =>
      have hblank : ∀ c ∈ [' '], isSpace c := by simp [isSpace]
      cases members with
      | nil => exact readsBack_obj_nil
      | cons member members =>
          rw [indentedChars, indentedMembers_eq]
          exact readsBack_obj isSpace_of_mem_lineBreak isSpace_of_mem_lineBreak hblank
            isSpace_of_mem_lineBreak (by simp) fun member h => ih member h (level + 1)

theorem Plain.readsBack_compact {depth : Nat} {value : Json} (h : Plain depth value) :
    ReadsBack depth value value.compactChars := by
  have hnone : ∀ c ∈ ([] : List Char), isSpace c := by simp
  induction h with
  | null => exact readsBack_null
  | bool value => cases value <;> exact readsBack_bool _
  | str s => exact readsBack_str s
  | @arr _ items _ ih =>
      cases items with
      | nil => exact readsBack_arr_nil
      | cons item items =>
          have hread := readsBack_arr hnone hnone hnone (List.cons_ne_nil item items) ih
          rwa [List.nil_append, List.append_nil, ← compactItems_eq] at hread
  | @obj _ members _ ih =>
      cases members with
      | nil => exact readsBack_obj_nil
      | cons member members =>
          have hread := readsBack_obj hnone hnone hnone hnone (List.cons_ne_nil member members) ih
          rwa [List.nil_append, List.append_nil, ← compactMembers_eq] at hread

theorem ReadsBack.read? {value : Json} {chars : List Char} (h : ReadsBack maxDepth value chars) :
    Json.read? (String.ofList chars) = some value := by
  have hread := h (2 * chars.length + 2) [] (by omega)
  rw [List.append_nil] at hread
  simp [Json.read?, readChars?, hread, skipSpace]

/-- The indented text of a plain value is read as this value. -/
theorem Plain.read?_indented {value : Json} (h : Plain maxDepth value) :
    read? value.indented = some value :=
  (h.readsBack_indented 0).read?

/-- So is its text on one line. -/
theorem Plain.read?_compact {value : Json} (h : Plain maxDepth value) :
    read? value.compact = some value :=
  h.readsBack_compact.read?

end Feuilleton.Json
