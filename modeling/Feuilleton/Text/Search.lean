/-!
# Searching and cutting

The first occurrence of a pattern decides everywhere. An empty pattern occurs at the very start.
-/

namespace Feuilleton.Text

def occursInList (pattern : List Char) : List Char → Bool
  | [] => pattern.isEmpty
  | c :: rest => pattern.isPrefixOf (c :: rest) || occursInList pattern rest

def occursIn (pattern s : String) : Bool :=
  occursInList pattern.toList s.toList

/-- What stands before and after the first occurrence. -/
def cutList? (pattern : List Char) : List Char → Option (List Char × List Char)
  | [] => if pattern.isEmpty then some ([], []) else none
  | c :: rest =>
      if pattern.isPrefixOf (c :: rest) then some ([], (c :: rest).drop pattern.length)
      else (cutList? pattern rest).map fun (before, after) => (c :: before, after)

def cut? (pattern s : String) : Option (String × String) :=
  (cutList? pattern.toList s.toList).map fun (before, after) =>
    (String.ofList before, String.ofList after)

/-- Leaves out the first occurrence, if there is one. -/
def eraseFirst (pattern s : String) : String :=
  match cut? pattern s with
  | some (before, after) => before ++ after
  | none => s

/-- The pieces between all occurrences of one character; `n` occurrences give `n + 1` pieces. -/
def splitList (separator : Char) : List Char → List (List Char)
  | [] => [[]]
  | c :: rest =>
      if c = separator then [] :: splitList separator rest
      else match splitList separator rest with
        | [] => [[c]]
        | piece :: pieces => (c :: piece) :: pieces

def split (separator : Char) (s : String) : List String :=
  (splitList separator s.toList).map String.ofList

def startsWith (pattern s : String) : Bool :=
  pattern.toList.isPrefixOf s.toList

def join (separator : String) (pieces : List String) : String :=
  separator.intercalate pieces

theorem append_of_cutList? {pattern cs before after : List Char}
    (h : cutList? pattern cs = some (before, after)) : cs = before ++ pattern ++ after := by
  induction cs generalizing before after with
  | nil =>
      simp only [cutList?] at h
      split at h
      · simp_all
      · simp at h
  | cons c rest ih =>
      simp only [cutList?] at h
      split at h
      · rename_i hp
        obtain ⟨tail, ht⟩ := List.isPrefixOf_iff_prefix.1 hp
        simp only [Option.some.injEq, Prod.mk.injEq] at h
        obtain ⟨rfl, rfl⟩ := h
        simp [← ht]
      · obtain ⟨⟨b, a⟩, hb, heq⟩ := Option.map_eq_some_iff.1 h
        simp only [Prod.mk.injEq] at heq
        obtain ⟨rfl, rfl⟩ := heq
        simp [ih hb]

end Feuilleton.Text
