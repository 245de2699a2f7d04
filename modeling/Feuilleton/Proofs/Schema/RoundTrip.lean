import Feuilleton.Schema.Scalar

/-!
# Decoders that undo an encoding

A decoder inverts an encoding when it takes what was encoded back, without an issue. Lists, maps
and nullable values inherit this from their parts. A record reads each of its fields off the one
member of that name, so no default can take the place of a value that was written.
-/

namespace Feuilleton

theorem lookup_eq_some_of_mem {α : Type} {entries : List (String × α)} {name : String} {value : α}
    (hnodup : (entries.map Prod.fst).Nodup) (h : (name, value) ∈ entries) :
    entries.lookup name = some value := by
  induction entries with
  | nil => cases h
  | cons entry rest ih =>
      obtain ⟨other, found⟩ := entry
      simp only [List.map_cons, List.nodup_cons] at hnodup
      obtain heq | hrest := List.mem_cons.1 h
      · obtain ⟨rfl, rfl⟩ := Prod.mk.inj heq
        simp
      · have hne : (name == other) = false := by
          refine beq_false_of_ne fun heq => hnodup.1 ?_
          exact List.mem_map.2 ⟨(name, value), hrest, heq⟩
        simp [List.lookup_cons, hne, ih hnodup.2 hrest]

theorem Json.member?_eq_some {members : Members} {name : String} {value : Json}
    (hnodup : (members.map Prod.fst).Nodup) (h : (name, value) ∈ members) :
    Json.member? members name = some value := by
  refine lookup_eq_some_of_mem ?_ (List.mem_reverse.2 h)
  rw [List.map_reverse]
  exact (List.reverse_perm _).nodup_iff.2 hnodup

namespace Checked

variable {α β : Type}

theorem map_eq_valid {f : α → β} {x : Checked α} {value : α} (h : x = valid value) :
    f <$> x = valid (f value) := by
  subst h
  rfl

theorem seq_eq_valid {f : Checked (α → β)} {x : Checked α} {g : α → β} {value : α}
    (hf : f = valid g) (hx : x = valid value) : f <*> x = valid (g value) := by
  subst hf hx
  rfl

end Checked

namespace Decoder

variable {α : Type} {decode : Decoder α} {encode : α → Json}

def Inverts (decode : Decoder α) (encode : α → Json) : Prop :=
  ∀ value, decode (encode value) = .valid value

/-! ## Scalars -/

theorem text_inverts : Inverts text .str :=
  fun _ => rfl

theorem bool_inverts : Inverts bool .bool :=
  fun _ => rfl

/-! ## Containers -/

theorem Inverts.items (h : Inverts decode encode) (position : Nat) (values : List α) :
    items decode position (values.map encode) = .valid values := by
  induction values generalizing position with
  | nil => rfl
  | cons value values ih =>
      simp only [List.map_cons, Decoder.items, h value, ih]
      rfl

theorem Inverts.list (h : Inverts decode encode) :
    Inverts (list decode) fun values => .arr (values.map encode) :=
  fun values => h.items 0 values

theorem Inverts.nullable (h : Inverts decode encode) (hnull : ∀ value, encode value ≠ .null) :
    Inverts (nullable decode) (Json.ofOption encode) := by
  intro value
  cases value with
  | none => rfl
  | some value =>
      simp only [Json.ofOption]
      rw [Decoder.nullable, h value]
      · rfl
      · exact hnull value

theorem Inverts.entries (h : Inverts decode encode) (values : List (String × α)) :
    entries decode (values.map fun (name, value) => (name, encode value)) = .valid values := by
  induction values with
  | nil => rfl
  | cons entry values ih =>
      obtain ⟨name, value⟩ := entry
      simp only [List.map_cons, Decoder.entries, h value, ih]
      rfl

theorem Inverts.orderedMap (h : Inverts decode encode) :
    Inverts (orderedMap decode) fun map =>
      .obj (map.entries.map fun (name, value) => (name, encode value)) := by
  intro map
  simp only [Decoder.orderedMap, h.entries]
  exact congrArg Checked.valid map.ofList_entries

theorem named_inverts {table : List (String × α)} {name : α → String}
    (h : ∀ value, table.lookup (name value) = some value) :
    Inverts (named table) fun value => .str (name value) := by
  intro value
  simp [named, h value]

/-! ## Records -/

variable {members : Members} {name : String} {value : α}

theorem Inverts.required (h : Inverts decode encode) (hnodup : (members.map Prod.fst).Nodup)
    (hmem : (name, encode value) ∈ members) : required name decode members = .valid value := by
  simp only [Decoder.required, Json.member?_eq_some hnodup hmem, h value]
  rfl

theorem Inverts.optional (h : Inverts decode encode) (default : α)
    (hnodup : (members.map Prod.fst).Nodup) (hmem : (name, encode value) ∈ members) :
    optional name default decode members = .valid value := by
  simp only [Decoder.optional, Json.member?_eq_some hnodup hmem, h value]
  rfl

end Decoder

end Feuilleton
