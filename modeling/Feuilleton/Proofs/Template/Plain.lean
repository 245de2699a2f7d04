import Mathlib.Data.List.TakeWhile
import Feuilleton.Template.Render

/-!
# Plain templates

In a template of single characters and of fields that only name a value the characters stay, and
every field becomes the text of its value, which is not read again. Such a template fails only
where a value cannot be written.
-/

namespace Feuilleton.Template

variable {values : Values} {expand : List Char → Except Error (List Char)}
  {front back : List Segment} {name text tail : List Char} {value : Value} {shown : String}
  {error : Error}

/-- The segments become the text, where `expand` fills in layouts. -/
def Fills (values : Values) (expand : List Char → Except Error (List Char))
    (segments : List Segment) (text : List Char) : Prop :=
  ∃ pieces, segments.mapM (Segment.render values expand) = .ok pieces ∧ pieces.flatten = text

theorem Fills.append (hfront : Fills values expand front text)
    (hback : Fills values expand back tail) :
    Fills values expand (front ++ back) (text ++ tail) := by
  obtain ⟨pieces, hpieces, rfl⟩ := hfront
  obtain ⟨more, hmore, rfl⟩ := hback
  refine ⟨pieces ++ more, ?_, List.flatten_append⟩
  rw [List.mapM_append, hpieces, hmore]
  rfl

theorem fills_literals (values : Values) (expand : List Char → Except Error (List Char))
    (cs : List Char) : Fills values expand (cs.map .literal) cs := by
  induction cs with
  | nil => exact ⟨[], rfl, rfl⟩
  | cons c cs ih =>
      have hfirst : Fills values expand [.literal c] [c] := ⟨[[c]], rfl, rfl⟩
      exact hfirst.append ih

/-- The name is that of a value; it has no number in its place and no step into the value. -/
structure Names (values : Values) (name : List Char) (value : Value) : Prop where
  unnumbered : readIndex name = .ok none
  nonempty : name ≠ []
  unstepped : name.all (!isStepMark ·) = true
  found : values.lookup (String.ofList name) = some value

theorem valueOf_of_names (h : Names values name value) : valueOf values name = .ok value := by
  have hmarks := List.all_eq_true.1 h.unstepped
  have hroot : rootValue values name = .ok value := by
    rw [rootValue, h.unnumbered]
    simp [bind, Except.bind, h.nonempty, h.found]
  rw [valueOf, List.takeWhile_eq_self_iff.2 hmarks, List.dropWhile_eq_nil_iff.2 hmarks, hroot]
  rfl

theorem render_field (h : Names values name value) :
    Segment.render values expand (.field { name }) = String.toList <$> value.display := by
  rw [Segment.render, Field.render, valueOf_of_names h]
  rfl

theorem fills_field (h : Names values name value) (hshown : value.display = .ok shown) :
    Fills values expand [.field { name }] shown.toList := by
  refine ⟨[shown.toList], ?_, by simp⟩
  rw [List.mapM_cons, render_field h, hshown]
  rfl

theorem render_of_fills {template : String}
    (h : Fills values (Template.expand values 1) (segments template.toList) shown.toList) :
    render values template = .ok shown := by
  obtain ⟨pieces, hpieces, hshown⟩ := h
  rw [← String.ofList_toList (s := shown), ← hshown, render, maxDepth, Template.expand, hpieces]
  rfl

/-- A template fails at the first value that cannot be written. -/
theorem render_of_names_error {template : String}
    (hsegments : segments template.toList = front ++ .field { name } :: back)
    (hfront : Fills values (Template.expand values 1) front text)
    (h : Names values name value) (herror : value.display = .error error) :
    render values template = .error error := by
  obtain ⟨pieces, hpieces, -⟩ := hfront
  rw [render, maxDepth, Template.expand, hsegments, List.mapM_append, hpieces, List.mapM_cons,
    render_field h, herror]
  rfl

end Feuilleton.Template
