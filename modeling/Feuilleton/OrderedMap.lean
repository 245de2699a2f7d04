/-!
# Ordered maps

A finite map that remembers the order in which its keys came. A later value for a known key takes
the place of the earlier one.
-/

namespace Feuilleton

def replaceOrAppend {β : Type} (key : String) (value : β) :
    List (String × β) → List (String × β)
  | [] => [(key, value)]
  | (k, v) :: rest =>
      if k = key then (key, value) :: rest else (k, v) :: replaceOrAppend key value rest

theorem map_fst_replaceOrAppend {β : Type} (key : String) (value : β)
    (entries : List (String × β)) :
    (replaceOrAppend key value entries).map Prod.fst =
      if key ∈ entries.map Prod.fst then entries.map Prod.fst
      else entries.map Prod.fst ++ [key] := by
  induction entries with
  | nil => simp [replaceOrAppend]
  | cons entry rest ih =>
      obtain ⟨k, v⟩ := entry
      by_cases h : k = key
      · subst h; simp [replaceOrAppend]
      · simp only [replaceOrAppend, h, ↓reduceIte, List.map_cons, ih, List.mem_cons,
          show key ≠ k from fun e => h e.symm, false_or]
        split <;> simp

theorem nodup_replaceOrAppend {β : Type} (key : String) (value : β)
    {entries : List (String × β)} (h : (entries.map Prod.fst).Nodup) :
    ((replaceOrAppend key value entries).map Prod.fst).Nodup := by
  rw [map_fst_replaceOrAppend]
  split
  · exact h
  · rename_i hk
    refine List.nodup_append.2 ⟨h, by simp, ?_⟩
    intro a ha b hb hab
    simp only [List.mem_singleton] at hb
    subst hb; subst hab
    exact hk ha

theorem replaceOrAppend_of_notMem {β : Type} {key : String} (value : β)
    {entries : List (String × β)} (h : key ∉ entries.map Prod.fst) :
    replaceOrAppend key value entries = entries ++ [(key, value)] := by
  induction entries with
  | nil => rfl
  | cons entry rest ih =>
      simp only [List.map_cons, List.mem_cons, not_or] at h
      simp [replaceOrAppend, ih h.2, Ne.symm h.1]

structure OrderedMap (β : Type) where
  entries : List (String × β) := []
  nodup_keys : (entries.map Prod.fst).Nodup := by simp
deriving DecidableEq

namespace OrderedMap

variable {β : Type}

instance [Repr β] : Repr (OrderedMap β) := ⟨fun map n => reprPrec map.entries n⟩

def empty : OrderedMap β := {}

instance : EmptyCollection (OrderedMap β) := ⟨empty⟩

instance : Inhabited (OrderedMap β) := ⟨empty⟩

def insert (map : OrderedMap β) (key : String) (value : β) : OrderedMap β where
  entries := replaceOrAppend key value map.entries
  nodup_keys := nodup_replaceOrAppend key value map.nodup_keys

def ofList (entries : List (String × β)) : OrderedMap β :=
  entries.foldl (fun map entry => map.insert entry.1 entry.2) empty

def get? (map : OrderedMap β) (key : String) : Option β :=
  map.entries.lookup key

def contains (map : OrderedMap β) (key : String) : Bool :=
  (map.get? key).isSome

def erase (map : OrderedMap β) (key : String) : OrderedMap β where
  entries := map.entries.filter (·.1 != key)
  nodup_keys := map.nodup_keys.sublist (List.filter_sublist.map Prod.fst)

def keys (map : OrderedMap β) : List String :=
  map.entries.map Prod.fst

def isEmpty (map : OrderedMap β) : Bool :=
  map.entries.isEmpty

theorem entries_foldl_insert (map : OrderedMap β) (entries : List (String × β))
    (h : ((map.entries ++ entries).map Prod.fst).Nodup) :
    (entries.foldl (fun map entry => map.insert entry.1 entry.2) map).entries =
      map.entries ++ entries := by
  induction entries generalizing map with
  | nil => simp
  | cons entry rest ih =>
      have hnew : entry.1 ∉ map.entries.map Prod.fst := by
        simp only [List.map_append, List.map_cons, List.nodup_append] at h
        exact fun hmem => h.2.2 _ hmem _ List.mem_cons_self rfl
      have happend : (map.insert entry.1 entry.2).entries = map.entries ++ [entry] :=
        replaceOrAppend_of_notMem entry.2 hnew
      rw [List.foldl_cons, ih, happend]
      · simp
      · rw [happend]
        simpa using h

theorem eq_of_entries_eq {map other : OrderedMap β} (h : map.entries = other.entries) :
    map = other := by
  cases map
  cases other
  cases h
  rfl

@[simp] theorem ofList_entries (map : OrderedMap β) : ofList map.entries = map :=
  eq_of_entries_eq (entries_foldl_insert empty map.entries map.nodup_keys)

theorem entries_insert (map : OrderedMap β) (key : String) (value : β) :
    (map.insert key value).entries = replaceOrAppend key value map.entries := rfl

theorem lookup_replaceOrAppend (key other : String) (value : β) (entries : List (String × β)) :
    (replaceOrAppend key value entries).lookup other =
      if other = key then some value else entries.lookup other := by
  induction entries with
  | nil =>
      by_cases h : other = key
      · simp [replaceOrAppend, h]
      · have hb : (other == key) = false := by simpa using h
        simp [replaceOrAppend, List.lookup_cons, h, hb]
  | cons entry rest ih =>
      obtain ⟨k, v⟩ := entry
      by_cases hk : k = key
      · subst hk
        by_cases h : other = k
        · subst h; simp [replaceOrAppend]
        · have hb : (other == k) = false := by simpa using h
          simp [replaceOrAppend, List.lookup_cons, h, hb]
      · by_cases h : other = k
        · subst h; simp [replaceOrAppend, hk]
        · have hb : (other == k) = false := by simpa using h
          simp only [replaceOrAppend, hk, ↓reduceIte, List.lookup_cons, hb, ih]

theorem get?_insert (map : OrderedMap β) (key other : String) (value : β) :
    (map.insert key value).get? other = if other = key then some value else map.get? other :=
  lookup_replaceOrAppend key other value map.entries

theorem lookup_filter_ne (key other : String) (entries : List (String × β)) :
    (entries.filter (·.1 != key)).lookup other =
      if other = key then none else entries.lookup other := by
  induction entries with
  | nil => simp
  | cons entry rest ih =>
      obtain ⟨k, v⟩ := entry
      by_cases hk : k = key
      · subst hk
        by_cases h : other = k
        · subst h; simpa using ih
        · have hb : (other == k) = false := by simpa using h
          simpa [List.lookup_cons, h, hb] using ih
      · by_cases h : other = k
        · subst h; simp [hk]
        · have hb : (other == k) = false := by simpa using h
          simpa [List.lookup_cons, hk, hb] using ih

theorem get?_erase (map : OrderedMap β) (key other : String) :
    (map.erase key).get? other = if other = key then none else map.get? other :=
  lookup_filter_ne key other map.entries

theorem isSome_get?_iff {map : OrderedMap β} {key : String} :
    (map.get? key).isSome = true ↔ key ∈ map.keys := by
  unfold get? keys
  induction map.entries with
  | nil => simp
  | cons entry rest ih =>
      rw [List.lookup_cons, List.map_cons, List.mem_cons]
      cases hkey : key == entry.1 with
      | true => simp [eq_of_beq hkey]
      | false => simp [ih, ne_of_beq_false hkey]

end OrderedMap

end Feuilleton
