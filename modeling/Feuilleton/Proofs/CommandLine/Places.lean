import Feuilleton.CommandLine.Files

/-!
# Places

A place is written from the working directory on, but it stands for the names that lead to it from
the root. Following a path keeps to these names, and two places that stand for the same names are
the same. So a file is found by any path that leads to it.
-/

namespace Feuilleton.CommandLine.Files

variable {files : Files} {place other full names : Path} {name text : String}

/-- The place is the one way of writing these names from the root. -/
def StandsFor (files : Files) (place full : Path) : Prop :=
  ∃ ups names, ups ≤ files.home.length ∧ place = List.replicate ups ".." ++ names ∧
    full = files.home.take (files.home.length - ups) ++ names ∧ ".." ∉ names ∧
    ∀ name ∈ names.head?, files.home[files.home.length - ups]? ≠ some name

/-- Where a name leads from a directory that is known by its names from the root. -/
def enter (full : Path) (name : String) : Path :=
  if name = ".." then full.dropLast else full ++ [name]

/-! ## Steps -/

theorem enter_append (h : names ≠ []) :
    enter (full ++ names) name = full ++ enter names name := by
  unfold enter
  split
  · exact List.dropLast_append_of_ne_nil h
  · exact List.append_assoc _ _ _

theorem notMem_enter (h : ".." ∉ names) : ".." ∉ enter names name := by
  unfold enter
  split
  · exact fun hmem => h (List.dropLast_subset _ hmem)
  · rename_i hname
    simpa [h] using Ne.symm hname

theorem mem_head?_of_enter {first : String} (hinner : names ≠ [])
    (h : first ∈ (enter names name).head?) : first ∈ names.head? := by
  unfold enter at h
  split at h
  · rw [List.head?_dropLast] at h
    split at h
    · exact h
    · cases h
  · rw [List.head?_append, List.head?_eq_some_head hinner] at h
    rw [List.head?_eq_some_head hinner]
    exact h

theorem isAround_iff {ups : Nat} (h : ".." ∉ names) :
    Path.isAround (List.replicate ups ".." ++ names) = true ↔ names = [] := by
  cases names with
  | nil => simp [Path.isAround]
  | cons first names =>
      rw [List.mem_cons, not_or] at h
      simp [Path.isAround, Ne.symm h.1]

/-- From the directories around, `..` leads further up, as far as the root. -/
theorem standsFor_up {ups : Nat} (hups : ups ≤ files.home.length) :
    files.StandsFor (files.follow (List.replicate ups "..") "..")
      (files.home.take (files.home.length - ups)).dropLast := by
  have haround : Path.isAround (List.replicate ups "..") = true := by simp [Path.isAround]
  have hparent : (files.home.take (files.home.length - ups)).dropLast =
      files.home.take (files.home.length - ups - 1) := by
    rw [List.dropLast_eq_take, List.take_take, List.length_take]
    congr 1
    omega
  unfold follow
  rw [if_pos (beq_self_eq_true _), haround, List.length_replicate, hparent]
  simp only [Bool.not_true, Bool.false_eq_true, ite_false]
  split
  · rename_i hlt
    exact ⟨ups + 1, [], hlt, by simp [List.replicate_succ'], by simp [Nat.sub_sub],
      List.not_mem_nil, nofun⟩
  · rename_i hge
    have hroot : files.home.length - ups = 0 := Nat.sub_eq_zero_of_le (Nat.not_lt.1 hge)
    exact ⟨ups, [], hups, by simp, by simp [hroot], List.not_mem_nil, nofun⟩

/-- A name leads from there back towards the working directory, or away from it. -/
theorem standsFor_down {ups : Nat} (hups : ups ≤ files.home.length) (hname : name ≠ "..") :
    files.StandsFor (files.follow (List.replicate ups "..") name)
      (files.home.take (files.home.length - ups) ++ [name]) := by
  have haround : Path.isAround (List.replicate ups "..") = true := by simp [Path.isAround]
  unfold follow
  rw [if_neg (by simpa using hname), haround, List.length_replicate]
  simp only [Bool.true_and, beq_iff_eq]
  split
  · rename_i hhome
    have hlt : files.home.length - ups < files.home.length :=
      (List.getElem?_eq_some_iff.1 hhome).1
    refine ⟨ups - 1, [], by omega, by simp, ?_, List.not_mem_nil, nofun⟩
    have hsucc : files.home.length - (ups - 1) = files.home.length - ups + 1 := by omega
    rw [hsucc, List.take_add_one, hhome]
    simp
  · rename_i hhome
    refine ⟨ups, [name], hups, rfl, rfl, by simpa using Ne.symm hname, fun other hother => ?_⟩
    cases hother
    exact hhome

theorem standsFor_follow (h : files.StandsFor place full) (name : String) :
    files.StandsFor (files.follow place name) (enter full name) := by
  obtain ⟨ups, names, hups, rfl, rfl, hnames, hback⟩ := h
  by_cases hinner : names = []
  · subst hinner
    rw [List.append_nil, List.append_nil, enter]
    split
    · rename_i hname
      rw [hname]
      exact standsFor_up hups
    · rename_i hname
      exact standsFor_down hups hname
  · have hnot : Path.isAround (List.replicate ups ".." ++ names) = false :=
      Bool.eq_false_iff.2 (mt (isAround_iff hnames).1 hinner)
    have hfollow : files.follow (List.replicate ups ".." ++ names) name =
        enter (List.replicate ups ".." ++ names) name := by
      simp [follow, enter, hnot]
    rw [hfollow, enter_append hinner, enter_append hinner]
    refine ⟨ups, enter names name, hups, rfl, rfl, notMem_enter hnames, fun first hfirst => ?_⟩
    exact hback first (mem_head?_of_enter hinner hfirst)

/-! ## Paths -/

/-- The names that a written path stands for. -/
def absolute (files : Files) (text : String) : Path :=
  (Path.ofText text).foldl enter (if Path.isAbsolute text then [] else files.home)

theorem standsFor_start (files : Files) (text : String) :
    files.StandsFor (files.start text) (if Path.isAbsolute text then [] else files.home) := by
  unfold start
  split
  · exact ⟨files.home.length, [], Nat.le_refl _, by simp, by simp, List.not_mem_nil, nofun⟩
  · exact ⟨0, [], Nat.zero_le _, rfl, by simp, List.not_mem_nil, nofun⟩

theorem standsFor_walk {next : Path} (h : files.StandsFor place full)
    (hwalk : files.walk place names = .ok (some next)) :
    files.StandsFor next (names.foldl enter full) := by
  induction names generalizing place full with
  | nil =>
      cases hwalk
      exact h
  | cons name names ih =>
      rw [walk] at hwalk
      split at hwalk
      · cases hwalk
      · split at hwalk
        · cases hwalk
        · exact ih (standsFor_follow h name) hwalk

/-- A path leads to the place that stands for its names. -/
theorem standsFor_of_resolve (h : files.resolve text = .ok (some place)) :
    files.StandsFor place (files.absolute text) := by
  unfold resolve at h
  split at h
  · cases h
  · split at h
    · cases h
    · exact standsFor_walk (files.standsFor_start text) h

/-- The names behind one place do not begin with those by which another is nearer to home. -/
theorem not_lt_of_take_append_eq {m n : Nat} {names' : Path} (hn : n ≤ files.home.length)
    (heq : files.home.take m ++ names = files.home.take n ++ names')
    (hback : ∀ name ∈ names.head?, files.home[m]? ≠ some name) : ¬m < n := by
  intro hlt
  have hsplit : files.home.take n = files.home.take m ++ (files.home.drop m).take (n - m) := by
    rw [← List.take_add, Nat.add_sub_cancel' (Nat.le_of_lt hlt)]
  rw [hsplit, List.append_assoc, List.append_cancel_left_eq] at heq
  have hm : m < files.home.length := Nat.lt_of_lt_of_le hlt hn
  have hfirst : names.head? = some files.home[m] := by
    rw [heq, List.drop_eq_getElem_cons hm, ← Nat.succ_pred_eq_of_pos (Nat.sub_pos_of_lt hlt)]
    rfl
  exact hback _ hfirst (List.getElem?_eq_getElem hm)

/-- No two places stand for the same names. -/
theorem eq_of_standsFor (h : files.StandsFor place full) (h' : files.StandsFor other full) :
    place = other := by
  obtain ⟨ups, names, hups, rfl, rfl, -, hback⟩ := h
  obtain ⟨ups', names', hups', rfl, heq, -, hback'⟩ := h'
  have hle := not_lt_of_take_append_eq (Nat.sub_le _ _) heq hback
  have hge := not_lt_of_take_append_eq (Nat.sub_le _ _) heq.symm hback'
  obtain rfl : ups = ups' := by omega
  rw [List.append_cancel_left_eq] at heq
  rw [heq]

/-- Paths that stand for the same names lead to the same place, if they lead anywhere. -/
theorem eq_of_resolve {text' : String} (h : files.resolve text = .ok (some place))
    (h' : files.resolve text' = .ok (some other))
    (hsame : files.absolute text = files.absolute text') : place = other := by
  have hplace := standsFor_of_resolve h
  rw [hsame] at hplace
  exact eq_of_standsFor hplace (standsFor_of_resolve h')

end Feuilleton.CommandLine.Files
