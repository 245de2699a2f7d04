import Feuilleton.Proofs.Grammar.FileNames
import Feuilleton.Proofs.Grammar.RoundTrip
import Mathlib.Data.Set.Function

/-!
# Operations on a store

The files of a store are a map of their own, with their names for keys, and that is how a store
answers: sites whose files have the same name share a grammar. As a map of the ids themselves it
answers exactly as long as no operation finds what one on another id has left in its file.
-/

namespace Feuilleton.GrammarStore

inductive Operation
  | put (grammar : Grammar)
  | get (id : String)
  | delete (id : String)

def Operation.id : Operation → String
  | put grammar => grammar.id
  | get id => id
  | delete id => id

inductive Answer
  | stored (file : String)
  | found (grammar : Grammar)
  | removed (wasThere : Bool)

def perform (store : GrammarStore) : Operation → Except Failure Answer × GrammarStore
  | .put grammar =>
      match store.put grammar with
      | .ok (file, later) => (.ok (.stored file), later)
      | .error failure => (.error failure, store)
  | .get id => ((store.get id).map .found, store)
  | .delete id =>
      match store.delete id with
      | .ok (wasThere, later) => (.ok (.removed wasThere), later)
      | .error failure => (.error failure, store)

def answers (store : GrammarStore) : List Operation → List (Except Failure Answer)
  | [] => []
  | op :: ops => (store.perform op).1 :: (store.perform op).2.answers ops

/-- A store with a fresh directory. -/
def fresh (path : String) : GrammarStore where
  directory := some { path }

/-! ## Maps of grammars -/

abbrev Shelf := String → Option Grammar

namespace Shelf

section Keys

-- the place of an id on the shelf
variable (key : String → String)

def empty : Shelf := fun _ => none

/-- The known grammars stand behind those on the shelf. -/
def answer (shelf : Shelf) : Operation → Except Failure Answer
  | .put grammar => .ok (.stored (fileName grammar.id))
  | .get id =>
      match shelf (key id) with
      | some grammar => .ok (.found grammar)
      | none => (known id).map .found
  | .delete id => .ok (.removed (shelf (key id)).isSome)

def next (shelf : Shelf) : Operation → Shelf
  | .put grammar => Function.update shelf (key grammar.id) (some grammar)
  | .get _ => shelf
  | .delete id => Function.update shelf (key id) none

def after (shelf : Shelf) (ops : List Operation) : Shelf :=
  ops.foldl (next key) shelf

def answers (shelf : Shelf) : List Operation → List (Except Failure Answer)
  | [] => []
  | op :: ops => answer key shelf op :: answers (next key shelf op) ops

end Keys

variable {key key' : String → String} {shelf shelf' : Shelf} {op : Operation}
  {ops : List Operation}

theorem next_of_ne {place : String} (h : key op.id ≠ place) :
    next key shelf op place = shelf place := by
  cases op with
  | put grammar => exact Function.update_of_ne (Ne.symm h) _ _
  | get id => rfl
  | delete id => exact Function.update_of_ne (Ne.symm h) _ _

theorem next_at {id : String} (h : op.id = id) (hsame : shelf (key id) = shelf' (key' id)) :
    next key shelf op (key id) = next key' shelf' op (key' id) := by
  subst h
  cases op with
  | put grammar => simp [next, Operation.id]
  | get id => exact hsame
  | delete id => simp [next, Operation.id]

/-- Where no other id shares the place of an id on either shelf, both shelves go on holding the
same for it. -/
theorem after_at {id : String} (hsame : shelf (key id) = shelf' (key' id))
    (halone : ∀ op ∈ ops, key op.id = key id ∨ key' op.id = key' id → op.id = id) :
    after key shelf ops (key id) = after key' shelf' ops (key' id) := by
  induction ops generalizing shelf shelf' with
  | nil => exact hsame
  | cons op ops ih =>
      have hop := halone op List.mem_cons_self
      apply ih
      · by_cases hid : op.id = id
        · exact next_at hid hsame
        · have hplace : key op.id ≠ key id := fun h => hid (hop (.inl h))
          have hplace' : key' op.id ≠ key' id := fun h => hid (hop (.inr h))
          rw [next_of_ne hplace, next_of_ne hplace', hsame]
      · intro other hother
        exact halone other (List.mem_cons_of_mem op hother)

/-- Two shelves give the same answers if they give the same one to every single operation. -/
theorem answers_eq_iff : answers key shelf ops = answers key' shelf' ops ↔
    ∀ before op later, ops = before ++ op :: later →
      answer key (after key shelf before) op = answer key' (after key' shelf' before) op := by
  induction ops generalizing shelf shelf' with
  | nil => simp [answers]
  | cons first ops ih =>
      rw [answers, answers, List.cons.injEq, ih]
      constructor
      · rintro ⟨hfirst, hrest⟩ before op later heq
        cases before with
        | nil =>
            obtain ⟨rfl, -⟩ := List.cons.inj heq
            exact hfirst
        | cons _ before =>
            obtain ⟨rfl, hops⟩ := List.cons.inj heq
            exact hrest before op later hops
      · intro h
        constructor
        · exact h [] first ops rfl
        · intro before op later heq
          exact h (first :: before) op later (by rw [heq]; rfl)

end Shelf

/-! ## Files -/

theorem get_eq_known {store : GrammarStore} {directory : Directory} {id : String}
    (hdirectory : store.directory = some directory) (hfits : Fits id)
    (hnone : directory.read (fileName id) = .ok none) : store.get id = known id := by
  simp [get, hdirectory, usableName_of_fits hfits, hnone, bind, Except.bind]

/-- The files of the store are the grammars on the shelf, under the names of files. -/
def Keeps (store : GrammarStore) (shelf : Shelf) : Prop :=
  ∃ directory, store.directory = some directory ∧
    ∀ name, directory.read name = .ok ((shelf name).map Grammar.toText)

theorem keeps_fresh (path : String) : (fresh path).Keeps Shelf.empty :=
  ⟨{ path }, rfl, fun _ => rfl⟩

section Keeps

variable {store : GrammarStore} {shelf : Shelf}

theorem mem_names_iff {directory : Directory}
    (hfiles : ∀ name, directory.read name = .ok ((shelf name).map Grammar.toText))
    {file : String} : file ∈ directory.names ↔ (shelf file).isSome = true := by
  rw [← not_iff_not, ← Directory.read_eq_none_iff, hfiles]
  simp

theorem Keeps.get (h : store.Keeps shelf) {id : String} (hfits : Fits id) :
    store.get id = match shelf (fileName id) with
      | some grammar => .ok grammar
      | none => known id := by
  obtain ⟨directory, hdirectory, hfiles⟩ := h
  have hfile := hfiles (fileName id)
  cases hshelf : shelf (fileName id) with
  | some grammar =>
      rw [hshelf] at hfile
      exact get_eq_ofText hdirectory (usableName_of_fits hfits) hfile grammar.ofText_toText
  | none =>
      rw [hshelf] at hfile
      exact get_eq_known hdirectory hfits hfile

theorem Keeps.put (h : store.Keeps shelf) {grammar : Grammar} (hfits : Fits grammar.id) :
    ∃ later, store.put grammar = .ok (fileName grammar.id, later) ∧
      later.Keeps (Function.update shelf (fileName grammar.id) (some grammar)) := by
  obtain ⟨directory, hdirectory, hfiles⟩ := h
  have hput := put_eq_ok_iff.2 ⟨directory, hdirectory, usableName_of_fits hfits, rfl⟩
  refine ⟨_, hput, _, rfl, fun name => ?_⟩
  rw [Directory.read_write_encode, Function.update_apply]
  split
  · rfl
  · exact hfiles name

theorem Keeps.delete (h : store.Keeps shelf) {id : String} (hfits : Fits id) :
    ∃ later, store.delete id = .ok ((shelf (fileName id)).isSome, later) ∧
      later.Keeps (Function.update shelf (fileName id) none) := by
  obtain ⟨directory, hdirectory, hfiles⟩ := h
  have hthere : directory.names.contains (fileName id) = (shelf (fileName id)).isSome := by
    rw [Bool.eq_iff_iff, List.contains_iff_mem, mem_names_iff hfiles]
  have hdelete := usableName_of_fits hfits
  unfold GrammarStore.delete
  simp only [hdirectory, hdelete, bind, Except.bind, hthere]
  cases hshelf : (shelf (fileName id)).isSome with
  | true =>
      refine ⟨_, rfl, _, rfl, fun name => ?_⟩
      rw [Directory.read_remove, Function.update_apply]
      split
      · rfl
      · exact hfiles name
  | false =>
      refine ⟨store, rfl, directory, hdirectory, fun name => ?_⟩
      have hnone := Option.isSome_eq_false_iff.1 hshelf
      rw [Option.isNone_iff_eq_none] at hnone
      rw [← hnone, Function.update_eq_self]
      exact hfiles name

theorem Keeps.perform (h : store.Keeps shelf) {op : Operation} (hfits : Fits op.id) :
    (store.perform op).1 = Shelf.answer fileName shelf op ∧
      (store.perform op).2.Keeps (Shelf.next fileName shelf op) := by
  cases op with
  | put grammar =>
      obtain ⟨later, hput, hlater⟩ := h.put hfits
      simp only [GrammarStore.perform, hput]
      exact ⟨rfl, hlater⟩
  | get id =>
      change Fits id at hfits
      have hget := h.get hfits
      refine ⟨?_, h⟩
      simp only [GrammarStore.perform, hget, Shelf.answer]
      cases shelf (fileName id) <;> rfl
  | delete id =>
      change Fits id at hfits
      obtain ⟨later, hdelete, hlater⟩ := h.delete hfits
      simp only [GrammarStore.perform, hdelete]
      exact ⟨rfl, hlater⟩

/-- A store answers as the map of its files. -/
theorem Keeps.answers (h : store.Keeps shelf) {ops : List Operation}
    (hfits : ∀ op ∈ ops, Fits op.id) : store.answers ops = Shelf.answers fileName shelf ops := by
  induction ops generalizing store shelf with
  | nil => rfl
  | cons op ops ih =>
      rw [List.forall_mem_cons] at hfits
      obtain ⟨hanswer, hlater⟩ := h.perform hfits.1
      rw [GrammarStore.answers, Shelf.answers, hanswer, ih hlater hfits.2]

end Keeps

/-! ## Ids -/

/-- The shelf of the files. -/
def filed (ops : List Operation) : Shelf :=
  Shelf.after fileName Shelf.empty ops

/-- The shelf on which every id has a place of its own. -/
def named (ops : List Operation) : Shelf :=
  Shelf.after (fun id => id) Shelf.empty ops

/-- The answers are those of a map of the ids: what was last put under an id and not deleted since
is found there, and else the known grammar of the site. -/
def AnswersById (path : String) (ops : List Operation) : Prop :=
  (fresh path).answers ops = Shelf.answers (fun id => id) Shelf.empty ops

/-- For a site that is looked up, its file holds what was last put under the very id; for one that
is deleted, a file is there exactly if something was. -/
def Operation.Undisturbed (before : List Operation) : Operation → Prop
  | put _ => True
  | get id => filed before (fileName id) = named before id
  | delete id => (filed before (fileName id)).isSome = (named before id).isSome

section Ids

variable {before ops : List Operation} {op : Operation} {id path : String}

theorem filed_eq_named (halone : ∀ op ∈ ops, fileName op.id = fileName id → op.id = id) :
    filed ops (fileName id) = named ops id := by
  refine Shelf.after_at rfl fun op hop h => ?_
  rcases h with hfile | hid
  · exact halone op hop hfile
  · exact hid

/-- Nothing shares the file of a known site. -/
theorem filed_of_known {grammar : Grammar} (h : Grammar.known? id = some grammar) :
    filed ops (fileName id) = named ops id :=
  filed_eq_named fun _ _ hfile => eq_of_fileName_eq hfile (own_of_known h)

theorem answer_eq_iff : Shelf.answer fileName (filed before) op =
    Shelf.answer (fun id => id) (named before) op ↔ op.Undisturbed before := by
  cases op with
  | put grammar => simp [Shelf.answer, Operation.Undisturbed]
  | get id =>
      rw [Operation.Undisturbed]
      cases hknown : Grammar.known? id with
      | some grammar => simp [Shelf.answer, filed_of_known hknown]
      | none =>
          have hfails : known id = .error (.unknownSite id) := by rw [known, hknown]
          simp only [Shelf.answer, hfails]
          cases filed before (fileName id) <;> cases named before id <;> simp [Except.map]
  | delete id => simp [Shelf.answer, Operation.Undisturbed]

theorem answersById_iff_answer (hfits : ∀ op ∈ ops, Fits op.id) : AnswersById path ops ↔
    ∀ before op later, ops = before ++ op :: later →
      Shelf.answer fileName (filed before) op =
        Shelf.answer (fun id => id) (named before) op := by
  rw [AnswersById, (keeps_fresh path).answers hfits]
  exact Shelf.answers_eq_iff

/-- A store answers as a map of the ids exactly if each operation finds its file as if no other
site shared it. -/
theorem answersById_iff (hfits : ∀ op ∈ ops, Fits op.id) : AnswersById path ops ↔
    ∀ before op later, ops = before ++ op :: later → op.Undisturbed before := by
  rw [answersById_iff_answer hfits]
  simp only [answer_eq_iff]

/-- A store is a map of the ids it is used with if, and only if, no two of them share a file. -/
theorem injOn_fileName_iff {ids : Set String} (hfits : ∀ id ∈ ids, Fits id) :
    Set.InjOn fileName ids ↔ ∀ ops, (∀ op ∈ ops, op.id ∈ ids) → AnswersById path ops := by
  constructor
  · intro hinj ops hids
    rw [answersById_iff_answer fun op hop => hfits _ (hids op hop)]
    intro before op later heq
    have hbefore : ∀ other ∈ before, fileName other.id = fileName op.id → other.id = op.id := by
      intro other hother hfile
      have hmem : other ∈ ops := by simp [heq, hother]
      exact hinj (hids other hmem) (hids op (by simp [heq])) hfile
    have hsame := filed_eq_named hbefore
    rw [answer_eq_iff]
    cases op with
    | put grammar => trivial
    | get id => exact hsame
    | delete id => exact congrArg Option.isSome hsame
  · intro hanswers a ha b hb hfile
    by_contra hne
    -- what is put under the one id is found under the other
    let grammar : Grammar := { id := a, sourceName := "", site := "" }
    have hmem : ∀ op ∈ [.put grammar, .get b], Operation.id op ∈ ids := by
      simpa [Operation.id, grammar] using ⟨ha, hb⟩
    have hget := (answersById_iff_answer fun op hop => hfits _ (hmem op hop)).1
      (hanswers _ hmem) [.put grammar] (.get b) [] rfl
    rw [answer_eq_iff] at hget
    have hfiled : filed [.put grammar] (fileName b) = some grammar := by
      rw [← hfile]
      exact Function.update_self _ _ _
    have hnamed : named [.put grammar] b = none :=
      Function.update_of_ne (Ne.symm hne) _ _
    rw [Operation.Undisturbed, hfiled, hnamed] at hget
    contradiction

end Ids

private def slashGrammar : Grammar := .lightNovel {
  id := "a/b"
  sourceName := "A"
  site := "https://a.example/" }

/-- The grammar of one site is found under the id of another, which has none. -/
theorem not_answersById_sharedFile :
    ¬AnswersById "grammars" [.put slashGrammar, .get "a_b"] := by
  have hfits : ∀ op ∈ [.put slashGrammar, .get "a_b"], Fits (Operation.id op) := by decide
  intro h
  have hget := (answersById_iff_answer hfits).1 h [.put slashGrammar] (.get "a_b") [] rfl
  have hfound : Shelf.answer fileName (filed [.put slashGrammar]) (.get "a_b") =
      .ok (.found slashGrammar) := rfl
  have hunknown : Shelf.answer (fun id => id) (named [.put slashGrammar]) (.get "a_b") =
      .error (.unknownSite "a_b") := rfl
  rw [hfound, hunknown] at hget
  contradiction

/-- Two sites share a file, but not at the same time. -/
theorem answersById_deletedFile :
    (∀ op ∈ [.put slashGrammar, .delete "a/b", .get "a_b"], Fits (Operation.id op)) ∧
      AnswersById "grammars" [.put slashGrammar, .delete "a/b", .get "a_b"] := by
  have hfits : ∀ op ∈ [.put slashGrammar, .delete "a/b", .get "a_b"], Fits (Operation.id op) := by
    decide
  refine ⟨hfits, (answersById_iff hfits).2 ?_⟩
  intro before op later heq
  rcases before with _ | ⟨first, _ | ⟨second, _ | ⟨third, before⟩⟩⟩
  · cases heq
    trivial
  · cases heq
    rfl
  · cases heq
    rfl
  · simp at heq

end Feuilleton.GrammarStore
