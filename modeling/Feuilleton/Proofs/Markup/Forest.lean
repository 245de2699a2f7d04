import Feuilleton.Markup.Event

/-!
# Balanced events

The events of a page are balanced if every open tag is closed by a tag of the same name and
elements lie inside each other or apart. Balanced events are those of a forest.
-/

namespace Feuilleton

/-- Texts and elements in document order; an element has a forest of its own inside. -/
inductive Forest
  | nil
  | text (content : String) (rest : Forest)
  | element (name : String) (attributes : Attributes) (inner rest : Forest)
  deriving DecidableEq, Repr

namespace Forest

def events : Forest → List Event
  | nil => []
  | text content rest => .text content :: rest.events
  | element name attributes inner rest =>
      .opened name attributes :: inner.events ++ .closed name :: rest.events

/-- `P` holds of every open tag. -/
def OnTags (P : String → Attributes → Prop) (forest : Forest) : Prop :=
  ∀ name attributes, .opened name attributes ∈ forest.events → P name attributes

variable {P : String → Attributes → Prop} {content name : String} {attributes : Attributes}
  {inner rest : Forest}

theorem onTags_nil : nil.OnTags P := by
  simp [OnTags, events]

theorem onTags_text : (text content rest).OnTags P ↔ rest.OnTags P := by
  simp [OnTags, events]

theorem onTags_element :
    (element name attributes inner rest).OnTags P ↔
      P name attributes ∧ inner.OnTags P ∧ rest.OnTags P := by
  simp only [OnTags, events, List.cons_append, List.mem_cons, List.mem_append, Event.opened.injEq,
    reduceCtorEq, false_or]
  constructor
  · intro h
    exact ⟨h _ _ (.inl ⟨rfl, rfl⟩), fun n a hmem => h n a (.inr (.inl hmem)),
      fun n a hmem => h n a (.inr (.inr hmem))⟩
  · rintro ⟨htag, hinner, hrest⟩ n a (⟨rfl, rfl⟩ | hmem | hmem)
    · exact htag
    · exact hinner n a hmem
    · exact hrest n a hmem

instance decidableOnTags [∀ name attributes, Decidable (P name attributes)] :
    (forest : Forest) → Decidable (forest.OnTags P)
  | nil => isTrue onTags_nil
  | text _ rest =>
      have := decidableOnTags rest
      decidable_of_iff _ onTags_text.symm
  | element _ _ inner rest =>
      have := decidableOnTags inner
      have := decidableOnTags rest
      decidable_of_iff _ onTags_element.symm

/-- `P` holds of every element, with its inside and the events behind its close tag. Behind the whole
forest stands `after`. -/
def OnElements (P : String → Attributes → Forest → List Event → Prop) : Forest → List Event → Prop
  | nil, _ => True
  | text _ rest, after => rest.OnElements P after
  | element name attributes inner rest, after =>
      P name attributes inner (rest.events ++ after) ∧
        inner.OnElements P (.closed name :: (rest.events ++ after)) ∧ rest.OnElements P after

instance decidableOnElements {P : String → Attributes → Forest → List Event → Prop}
    [∀ name attributes inner after, Decidable (P name attributes inner after)] :
    (forest : Forest) → (after : List Event) → Decidable (forest.OnElements P after)
  | nil, _ => isTrue trivial
  | text _ rest, after => decidableOnElements rest after
  | element name _ inner rest, after =>
      have := decidableOnElements (P := P) inner (.closed name :: (rest.events ++ after))
      have := decidableOnElements (P := P) rest after
      inferInstanceAs (Decidable (_ ∧ _ ∧ _))

/-- A page that breaks off breaks off in front of its first element, inside of it or behind it. -/
theorem cases_of_prefix_element {before : List Event}
    (h : before <+: (element name attributes inner rest).events) :
    before = [] ∨
      (∃ first, first <+: inner.events ∧ before = .opened name attributes :: first) ∨
      ∃ last, last <+: rest.events ∧
        before = .opened name attributes :: inner.events ++ .closed name :: last := by
  rw [events, List.cons_append, List.prefix_cons_iff] at h
  obtain rfl | ⟨front, rfl, hfront⟩ := h
  · exact .inl rfl
  rcases List.prefix_or_prefix_of_prefix hfront (List.prefix_append _ _) with hinner | ⟨back, rfl⟩
  · exact .inr (.inl ⟨front, hinner, rfl⟩)
  rw [List.prefix_append_right_inj, List.prefix_cons_iff] at hfront
  obtain rfl | ⟨last, rfl, hlast⟩ := hfront
  · exact .inr (.inl ⟨inner.events, List.prefix_refl _, by rw [List.append_nil]⟩)
  · exact .inr (.inr ⟨last, hlast, rfl⟩)

end Forest

end Feuilleton
