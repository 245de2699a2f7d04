import Mathlib.Data.List.Induction
import Feuilleton.Proofs.Address.Slashes

/-!
# Runs of slashes

Where slashes are collapsed, runs get shorter and none disappears. All else stays as it is, the
scheme with its separator included, and behind it two slashes only stand together behind a colon.
An address in this form does not change any more.
-/

namespace Feuilleton

namespace Text

variable {pattern cs before after : List Char}

theorem cutList?_self_append (pattern after : List Char) :
    cutList? pattern (pattern ++ after) = some ([], after) := by
  have hfirst : pattern.isPrefixOf (pattern ++ after) = true :=
    List.isPrefixOf_iff_prefix.2 (List.prefix_append pattern after)
  cases hcs : pattern ++ after with
  | nil =>
      obtain ⟨rfl, rfl⟩ := List.append_eq_nil_iff.1 hcs
      rfl
  | cons c rest =>
      rw [cutList?, ← hcs, if_pos hfirst, List.drop_left]

/-- The first occurrence of a pattern stays the first one whatever is put behind it. -/
theorem cutList?_of_cutList? (h : cutList? pattern cs = some (before, after))
    (other : List Char) :
    cutList? pattern (before ++ pattern ++ other) = some (before, other) := by
  induction cs generalizing before with
  | nil =>
      have hnil := append_of_cutList? h
      obtain ⟨rfl, -, -⟩ : before = [] ∧ pattern = [] ∧ after = [] := by simpa using hnil.symm
      exact cutList?_self_append pattern other
  | cons c cs ih =>
      rw [cutList?] at h
      split at h
      · cases h
        exact cutList?_self_append pattern other
      · rename_i hfirst
        obtain ⟨⟨front, back⟩, hcut, heq⟩ := Option.map_eq_some_iff.1 h
        cases heq
        have hcs := append_of_cutList? hcut
        have hlater : ¬pattern.isPrefixOf (c :: front ++ pattern ++ other) = true := by
          intro hpart
          rw [List.isPrefixOf_iff_prefix] at hpart
          -- the pattern ends before `other` begins
          have hshort : pattern <+: c :: front ++ pattern :=
            List.prefix_of_prefix_length_le hpart (List.prefix_append _ other) (by simp; omega)
          apply hfirst
          rw [List.isPrefixOf_iff_prefix, hcs]
          exact hshort.trans (List.prefix_append (c :: front ++ pattern) _)
        rw [List.cons_append, List.cons_append] at hlater ⊢
        rw [cutList?, if_neg hlater, ih hcut]
        rfl

theorem isSome_cutList? (pattern cs : List Char) :
    (cutList? pattern cs).isSome = occursInList pattern cs := by
  induction cs with
  | nil => cases hpattern : pattern.isEmpty <;> simp [cutList?, occursInList, hpattern]
  | cons c cs ih =>
      rw [cutList?, occursInList, ← ih]
      split
      · rename_i hfirst
        rw [hfirst]
        rfl
      · rename_i hfirst
        rw [Bool.not_eq_true] at hfirst
        rw [hfirst, Option.isSome_map, Bool.false_or]

theorem occursInList_iff : occursInList pattern cs = true ↔ pattern <:+: cs := by
  induction cs with
  | nil => simp [occursInList]
  | cons c cs ih =>
      rw [occursInList, Bool.or_eq_true, List.isPrefixOf_iff_prefix, ih, List.infix_cons_iff]

theorem isSome_cut? (mark s : String) : (cut? mark s).isSome = occursIn mark s := by
  rw [cut?, Option.isSome_map, isSome_cutList?, occursIn]

theorem cut?_eq_none_iff {mark s : String} :
    cut? mark s = none ↔ ¬mark.toList <:+: s.toList := by
  rw [← Option.not_isSome_iff_eq_none, isSome_cut?, occursIn, occursInList_iff]

theorem cut?_of_cut? {mark s before after : String} (h : cut? mark s = some (before, after))
    (other : String) : cut? mark (before ++ mark ++ other) = some (before, other) := by
  obtain ⟨⟨front, back⟩, hcut, heq⟩ := Option.map_eq_some_iff.1 h
  cases heq
  rw [cut?, String.toList_append, String.toList_append, String.toList_ofList,
    cutList?_of_cutList? hcut]
  simp

theorem append_of_cut? {mark s before after : String} (h : cut? mark s = some (before, after)) :
    s = before ++ mark ++ after := by
  obtain ⟨⟨front, back⟩, hcut, heq⟩ := Option.map_eq_some_iff.1 h
  cases heq
  rw [← String.toList_inj, append_of_cutList? hcut]
  simp

end Text

namespace Address

variable {allowed n m : Nat} {c : Char} {cs ds before after : List Char}

/-! ## What may be kept -/

/-- How many slashes may be kept behind a character, if `allowed` may be kept in its place. -/
def allowedBehind (allowed : Nat) (c : Char) : Nat :=
  if c = '/' then allowed - 1 else if c = ':' then 2 else 1

theorem collapseFrom_cons_of_ne (h : c ≠ '/') (allowed : Nat) (cs : List Char) :
    collapseFrom allowed (c :: cs) = c :: collapseFrom (allowedBehind allowed c) cs := by
  simp only [collapseFrom, allowedBehind, if_neg h]

theorem collapseFrom_append_foldl (allowed : Nat) (before after : List Char) :
    collapseFrom allowed (before ++ after) =
      collapseFrom allowed before ++ collapseFrom (before.foldl allowedBehind allowed) after := by
  induction before generalizing allowed with
  | nil => rfl
  | cons c before ih =>
      by_cases hc : c = '/'
      · subst hc
        cases allowed <;> simp [collapseFrom, allowedBehind, ih]
      · rw [List.cons_append, collapseFrom_cons_of_ne hc, collapseFrom_cons_of_ne hc, ih,
          List.cons_append, List.foldl_cons]

theorem collapseFrom_sublist (allowed : Nat) (cs : List Char) :
    (collapseFrom allowed cs).Sublist cs := by
  induction cs generalizing allowed with
  | nil => exact .slnil
  | cons c cs ih =>
      by_cases hc : c = '/'
      · subst hc
        cases allowed with
        | zero => exact (ih 0).cons '/'
        | succ kept => exact (ih kept).cons_cons '/'
      · rw [collapseFrom_cons_of_ne hc]
        exact (ih _).cons_cons c

theorem collapseFrom_collapseFrom (allowed : Nat) (cs : List Char) :
    collapseFrom allowed (collapseFrom allowed cs) = collapseFrom allowed cs := by
  induction cs generalizing allowed with
  | nil => rfl
  | cons c cs ih =>
      by_cases hc : c = '/'
      · subst hc
        cases allowed <;> simp [collapseFrom, ih]
      · rw [collapseFrom_cons_of_ne hc, collapseFrom_cons_of_ne hc, ih]

theorem collapseFrom_eq_self_iff_forall : collapseFrom allowed cs = cs ↔
    ∀ before after, cs = before ++ '/' :: after → before.foldl allowedBehind allowed ≠ 0 := by
  constructor
  · rintro h before after rfl hzero
    have hlength := congrArg List.length h
    have hbefore := (collapseFrom_sublist allowed before).length_le
    have hafter := (collapseFrom_sublist 0 after).length_le
    rw [collapseFrom_append_foldl, hzero] at hlength
    simp [collapseFrom] at hlength
    omega
  · intro h
    induction cs generalizing allowed with
    | nil => rfl
    | cons c cs ih =>
        have hrest : collapseFrom (allowedBehind allowed c) cs = cs := by
          apply ih
          rintro before after rfl
          exact h (c :: before) after rfl
        by_cases hc : c = '/'
        · subst hc
          cases allowed with
          | zero => exact absurd rfl (h [] cs rfl)
          | succ kept => exact congrArg ('/' :: ·) hrest
        · rw [collapseFrom_cons_of_ne hc, hrest]

/-! ## Tight texts -/

/-- Two slashes only stand together behind a colon. -/
def IsTight (cs : List Char) : Prop :=
  ∀ before after, cs = before ++ '/' :: '/' :: after → before.getLast? = some ':'

theorem foldl_allowedBehind_concat (before : List Char) (c : Char) :
    (before ++ [c]).foldl allowedBehind 1 = allowedBehind (before.foldl allowedBehind 1) c := by
  rw [List.foldl_append, List.foldl_cons, List.foldl_nil]

theorem foldl_allowedBehind_le (before : List Char) : before.foldl allowedBehind 1 ≤ 2 := by
  induction before using List.reverseRecOn with
  | nil => decide
  | append_singleton before c ih =>
      rw [foldl_allowedBehind_concat, allowedBehind]
      split
      · omega
      · split <;> omega

theorem two_le_foldl_iff :
    2 ≤ before.foldl allowedBehind 1 ↔ before.getLast? = some ':' := by
  cases before using List.reverseRecOn with
  | nil => simp
  | append_singleton front c =>
      have hfront := foldl_allowedBehind_le front
      rw [foldl_allowedBehind_concat, List.getLast?_concat, allowedBehind, Option.some_inj]
      by_cases hc : c = '/'
      · subst hc
        simp
        omega
      · by_cases hcolon : c = ':' <;> simp [hc, hcolon]

theorem collapseFrom_eq_self_iff : collapseFrom 1 cs = cs ↔ IsTight cs := by
  rw [collapseFrom_eq_self_iff_forall]
  constructor
  · rintro h before after rfl
    have hkept := h (before ++ ['/']) after (by simp)
    rw [foldl_allowedBehind_concat, allowedBehind, if_pos rfl] at hkept
    exact two_le_foldl_iff.1 (by omega)
  · rintro h before after rfl hzero
    cases before using List.reverseRecOn with
    | nil => cases hzero
    | append_singleton front c =>
        rw [foldl_allowedBehind_concat] at hzero
        by_cases hc : c = '/'
        · subst hc
          have hcolon := two_le_foldl_iff.2 (h front after (by simp))
          rw [allowedBehind, if_pos rfl] at hzero
          omega
        · rw [allowedBehind, if_neg hc] at hzero
          split at hzero <;> contradiction

instance (cs : List Char) : Decidable (IsTight cs) :=
  decidable_of_iff _ collapseFrom_eq_self_iff

/-! ## Shortened runs -/

/-- Each run of slashes of the first text stands in the second one as a run that is no longer; all
other characters are the same. -/
inductive ShortensRuns : List Char → List Char → Prop
  | nil : ShortensRuns [] []
  | other {c : Char} {cs ds : List Char} (hc : c ≠ '/') (h : ShortensRuns cs ds) :
      ShortensRuns (c :: cs) (c :: ds)
  | run {n m : Nat} {cs ds : List Char} (hpos : 0 < m) (hle : m ≤ n)
      (hcs : cs.head? ≠ some '/') (hds : ds.head? ≠ some '/') (h : ShortensRuns cs ds) :
      ShortensRuns (List.replicate n '/' ++ cs) (List.replicate m '/' ++ ds)

theorem ShortensRuns.cons_slash (h : ShortensRuns cs ds) :
    ShortensRuns ('/' :: cs) ('/' :: ds) := by
  cases h with
  | nil => exact .run (n := 1) (m := 1) (by decide) (by decide) (by simp) (by simp) .nil
  | other hc h =>
      exact .run (n := 1) (m := 1) (by decide) (by decide) (by simpa using hc) (by simpa using hc)
        (.other hc h)
  | @run n m cs ds hpos hle hcs hds h =>
      exact .run (n := n + 1) (m := m + 1) (by omega) (by omega) hcs hds h

theorem ShortensRuns.cons (c : Char) (h : ShortensRuns cs ds) :
    ShortensRuns (c :: cs) (c :: ds) := by
  by_cases hc : c = '/'
  · subst hc
    exact h.cons_slash
  · exact .other hc h

theorem ShortensRuns.append_left (lead : List Char) (h : ShortensRuns cs ds) :
    ShortensRuns (lead ++ cs) (lead ++ ds) := by
  induction lead with
  | nil => exact h
  | cons c lead ih => exact ih.cons c

/-- A slash may be left out before another one. -/
theorem ShortensRuns.drop_slash (h : ShortensRuns cs ds) (hds : ds.head? = some '/') :
    ShortensRuns ('/' :: cs) ds := by
  cases h with
  | nil => cases hds
  | other hc h => exact absurd (Option.some_inj.1 hds) hc
  | @run n m cs ds hpos hle hcs hds' h =>
      exact .run (n := n + 1) hpos (by omega) hcs hds' h

theorem ShortensRuns.filter_eq (h : ShortensRuns cs ds) :
    ds.filter (· ≠ '/') = cs.filter (· ≠ '/') := by
  induction h with
  | nil => rfl
  | other hc h ih => simpa [hc] using ih
  | run hpos hle hcs hds h ih => simpa using ih

theorem ShortensRuns.mem_iff (h : ShortensRuns cs ds) (hc : c ≠ '/') : c ∈ ds ↔ c ∈ cs := by
  have hmem := congrArg (c ∈ ·) h.filter_eq
  simpa [List.mem_filter, hc] using hmem

theorem ShortensRuns.sublist (h : ShortensRuns cs ds) : ds.Sublist cs := by
  induction h with
  | nil => exact .slnil
  | other hc h ih => exact ih.cons_cons _
  | run hpos hle hcs hds h ih => exact (List.replicate_sublist_replicate '/' |>.2 hle).append ih

theorem exists_replicate_append {tail rest : List Char} (hc : c ≠ '/')
    (h : cs ++ c :: tail = List.replicate n '/' ++ rest) :
    ∃ more, cs = List.replicate n '/' ++ more ∧ rest = more ++ c :: tail := by
  rcases List.append_eq_append_iff.1 h with ⟨run, hrun, hsign⟩ | hbehind
  · cases run with
    | nil => exact ⟨[], by simpa using hrun.symm, hsign.symm⟩
    | cons d run =>
        obtain ⟨rfl, -⟩ := List.cons.inj hsign
        have hmem : c ∈ List.replicate n '/' := by simp [hrun]
        exact absurd (List.eq_of_mem_replicate hmem) hc
  · exact hbehind

theorem head?_ne_of_append_cons {tail : List Char}
    (h : (cs ++ c :: tail).head? ≠ some '/') : cs.head? ≠ some '/' := by
  cases cs with
  | nil => simp
  | cons d cs => exact h

/-- Around a character that is no slash both sides are shortened for themselves. -/
theorem ShortensRuns.exists_append_cons {tail : List Char}
    (h : ShortensRuns (cs ++ c :: tail) ds) (hc : c ≠ '/') :
    ∃ front back, ds = front ++ c :: back ∧ ShortensRuns cs front ∧ ShortensRuns tail back := by
  generalize hwhole : cs ++ c :: tail = whole at h
  induction h generalizing cs with
  | nil => simp at hwhole
  | @other d rest ds hd h ih =>
      cases cs with
      | nil =>
          obtain ⟨rfl, rfl⟩ := List.cons.inj hwhole
          exact ⟨[], ds, rfl, .nil, h⟩
      | cons e cs =>
          obtain ⟨rfl, hrest⟩ := List.cons.inj hwhole
          obtain ⟨front, back, rfl, hfront, hback⟩ := ih hrest
          exact ⟨e :: front, back, rfl, .other hd hfront, hback⟩
  | @run n m rest ds hpos hle hrest hds h ih =>
      obtain ⟨more, rfl, rfl⟩ := exists_replicate_append hc hwhole
      obtain ⟨front, back, rfl, hfront, hback⟩ := ih rfl
      have hmore := head?_ne_of_append_cons hrest
      have hhead := head?_ne_of_append_cons hds
      exact ⟨List.replicate m '/' ++ front, back, by simp,
        .run hpos hle hmore hhead hfront, hback⟩

/-- The second part carries the induction: a run that has already begun may end. -/
theorem shortensRuns_collapseFrom (allowed : Nat) (cs : List Char) :
    (0 < allowed → ShortensRuns cs (collapseFrom allowed cs)) ∧
      ShortensRuns ('/' :: cs) ('/' :: collapseFrom allowed cs) := by
  induction cs generalizing allowed with
  | nil => exact ⟨fun _ => .nil, ShortensRuns.nil.cons_slash⟩
  | cons c cs ih =>
      by_cases hc : c = '/'
      · subst hc
        cases allowed with
        | zero => exact ⟨nofun, (ih 0).2.drop_slash rfl⟩
        | succ kept => exact ⟨fun _ => (ih kept).2, (ih kept).2.cons_slash⟩
      · have hpos : 0 < allowedBehind allowed c := by
          rw [allowedBehind, if_neg hc]
          split <;> decide
        have hrest := (ih _).1 hpos
        rw [collapseFrom_cons_of_ne hc]
        exact ⟨fun _ => hrest.cons c, (hrest.cons c).cons_slash⟩

/-! ## Addresses -/

theorem exists_cons_of_collapseFrom {kept : Nat} (h : collapseFrom (kept + 1) cs = '/' :: ds) :
    ∃ rest, cs = '/' :: rest ∧ collapseFrom kept rest = ds := by
  cases cs with
  | nil => cases h
  | cons c rest =>
      by_cases hc : c = '/'
      · subst hc
        exact ⟨rest, rfl, (List.cons.inj h).2⟩
      · rw [collapseFrom_cons_of_ne hc] at h
        exact absurd (List.cons.inj h).1 hc

/-- No separator of a scheme comes into being. -/
theorem infix_of_infix_collapseFrom (h : [':', '/', '/'] <:+: collapseFrom allowed cs) :
    [':', '/', '/'] <:+: cs := by
  induction cs generalizing allowed with
  | nil => exact h
  | cons c cs ih =>
      by_cases hc : c = '/'
      · subst hc
        apply List.infix_cons
        cases allowed with
        | zero => exact ih h
        | succ kept =>
            rcases List.infix_cons_iff.1 h with hpart | hrest
            · exact absurd (List.cons_prefix_cons.1 hpart).1 (by decide)
            · exact ih hrest
      · rw [collapseFrom_cons_of_ne hc, List.infix_cons_iff] at h
        rcases h with hpart | hrest
        · obtain ⟨rfl, tail, htail⟩ := List.cons_prefix_cons.1 hpart
          obtain ⟨rest, rfl, hsecond⟩ := exists_cons_of_collapseFrom htail.symm
          obtain ⟨rest, rfl, -⟩ := exists_cons_of_collapseFrom hsecond
          exact ⟨[], rest, rfl⟩
        · exact List.infix_cons (ih hrest)

/-- What stands behind the scheme; the whole if there is none. -/
def behindScheme (url : String) : String :=
  match Text.cut? "://" url with
  | some (_, rest) => rest
  | none => url

theorem toList_collapseRuns (s : String) : (collapseRuns s).toList = collapseFrom 1 s.toList :=
  String.toList_ofList

theorem collapseRuns_collapseRuns (s : String) :
    collapseRuns (collapseRuns s) = collapseRuns s := by
  rw [← String.toList_inj, toList_collapseRuns, toList_collapseRuns, collapseFrom_collapseFrom]

theorem collapseRuns_eq_self_iff {s : String} : collapseRuns s = s ↔ IsTight s.toList := by
  rw [← String.toList_inj, toList_collapseRuns, collapseFrom_eq_self_iff]

theorem collapseSlashes_of_none {url : String} (h : Text.cut? "://" url = none) :
    collapseSlashes url = collapseRuns url := by
  rw [collapseSlashes, h]

theorem collapseSlashes_of_some {url scheme rest : String}
    (h : Text.cut? "://" url = some (scheme, rest)) :
    collapseSlashes url = scheme ++ "://" ++ collapseRuns rest := by
  rw [collapseSlashes, h]

/-- The scheme is found again in its place, or none is found again. -/
theorem cut?_collapseSlashes (url : String) : Text.cut? "://" (collapseSlashes url) =
    (Text.cut? "://" url).map fun (scheme, rest) => (scheme, collapseRuns rest) := by
  cases hcut : Text.cut? "://" url with
  | none =>
      rw [collapseSlashes_of_none hcut, Option.map_none, Text.cut?_eq_none_iff, toList_collapseRuns]
      rw [Text.cut?_eq_none_iff] at hcut
      exact mt infix_of_infix_collapseFrom hcut
  | some parts =>
      rw [collapseSlashes_of_some hcut]
      exact Text.cut?_of_cut? hcut _

theorem behindScheme_collapseSlashes (url : String) :
    behindScheme (collapseSlashes url) = collapseRuns (behindScheme url) := by
  rw [behindScheme, cut?_collapseSlashes, behindScheme]
  cases hcut : Text.cut? "://" url with
  | none => exact collapseSlashes_of_none hcut
  | some parts => rfl

theorem shortensRuns_collapseRuns (s : String) : ShortensRuns s.toList (collapseRuns s).toList := by
  rw [toList_collapseRuns]
  exact (shortensRuns_collapseFrom 1 s.toList).1 Nat.one_pos

theorem shortensRuns_collapseSlashes (url : String) :
    ShortensRuns url.toList (collapseSlashes url).toList := by
  cases hcut : Text.cut? "://" url with
  | none =>
      rw [collapseSlashes_of_none hcut]
      exact shortensRuns_collapseRuns url
  | some parts =>
      rw [collapseSlashes_of_some hcut, Text.append_of_cut? hcut, String.toList_append,
        String.toList_append (t := collapseRuns parts.2)]
      exact (shortensRuns_collapseRuns parts.2).append_left _

theorem collapseSlashes_collapseSlashes (url : String) :
    collapseSlashes (collapseSlashes url) = collapseSlashes url := by
  have hagain := cut?_collapseSlashes url
  cases hcut : Text.cut? "://" url with
  | none =>
      rw [hcut, Option.map_none] at hagain
      rw [collapseSlashes_of_none hagain, collapseSlashes_of_none hcut, collapseRuns_collapseRuns]
  | some parts =>
      rw [hcut, Option.map_some] at hagain
      rw [collapseSlashes_of_some hagain, collapseSlashes_of_some hcut, collapseRuns_collapseRuns]

/-- Only runs of slashes behind the scheme are shortened, down to what may stand. -/
structure ShortensSlashes (url shortened : String) : Prop where
  scheme : (Text.cut? "://" shortened).map Prod.fst = (Text.cut? "://" url).map Prod.fst
  tight : IsTight (behindScheme shortened).toList
  runs : ShortensRuns url.toList shortened.toList
  others : shortened.toList.filter (· ≠ '/') = url.toList.filter (· ≠ '/')

/-- Collapsing slashes shortens runs, and does so once and for all. -/
theorem shortensSlashes_collapseSlashes (url : String) :
    ShortensSlashes url (collapseSlashes url) ∧
      collapseSlashes (collapseSlashes url) = collapseSlashes url := by
  have hruns := shortensRuns_collapseSlashes url
  refine ⟨⟨?_, ?_, hruns, hruns.filter_eq⟩, collapseSlashes_collapseSlashes url⟩
  · rw [cut?_collapseSlashes, Option.map_map]
    rfl
  · rw [behindScheme_collapseSlashes, ← collapseRuns_eq_self_iff, collapseRuns_collapseRuns]

example : collapseSlashes "https:////e.com//a:///b" = "https:///e.com/a://b" := by decide

end Address

end Feuilleton
