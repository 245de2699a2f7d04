import Feuilleton.Grammar.Store
import Feuilleton.Proofs.Encoding.Utf8
import Feuilleton.Proofs.Json.RoundTrip
import Feuilleton.Proofs.Schema.RoundTrip

/-!
# Stored grammars

A grammar comes back from its text as it was written: empty lists stay empty, a missing tag or end
tag stays missing, and the data of a request keep their order. So what was put into a store is what
is found there under the same id, whatever the directory held before.
-/

namespace Feuilleton

open Decoder
open Json (Plain plain_ofStrings plain_ofOption)

/-! ## Names and tests -/

theorem Test.lookup_names (test : Test) : Test.names.lookup test.name = some test := by
  cases test <;> decide

theorem Numbering.lookup_names (numbering : Numbering) :
    Numbering.names.lookup numbering.name = some numbering := by
  cases numbering <;> decide

theorem nullableText_inverts : Inverts (nullable text) (.ofOption .str) :=
  text_inverts.nullable fun _ => Json.noConfusion

theorem texts_inverts : Inverts (list text) .ofStrings :=
  text_inverts.list

theorem Predicate.decode_inverts : Inverts Predicate.decode Predicate.encode := by
  rintro ⟨test, value, key, tag⟩
  have hnodup : ["kind", "value", "attribute", "tag"].Nodup := by decide
  simp only [Predicate.decode, Predicate.encode, record]
  iterate 3 refine Checked.seq_eq_valid ?_ ?_
  · exact Checked.map_eq_valid ((named_inverts Test.lookup_names).required hnodup (by simp))
  · exact text_inverts.required hnodup (by simp)
  · exact text_inverts.optional _ hnodup (by simp)
  · exact nullableText_inverts.optional _ hnodup (by simp)

theorem Predicate.decodeAll_eq_valid {members : Members} {name : String}
    {predicates : List Predicate} (default : List Predicate)
    (hnodup : (members.map Prod.fst).Nodup) (hmem : (name, encodeAll predicates) ∈ members) :
    decodeAll name default members = .valid predicates :=
  Predicate.decode_inverts.list.optional default hnodup hmem

/-! ## Rules -/

theorem CoverRules.decode_inverts : Inverts CoverRules.decode CoverRules.encode := by
  rintro ⟨image, nameAttribute, sourceAttributes⟩
  have hnodup : ["image", "name_attribute", "source_attributes"].Nodup := by decide
  simp only [CoverRules.decode, CoverRules.encode, record]
  iterate 2 refine Checked.seq_eq_valid ?_ ?_
  · exact Checked.map_eq_valid (Predicate.decodeAll_eq_valid _ hnodup (by simp))
  · exact text_inverts.optional _ hnodup (by simp)
  · exact texts_inverts.optional _ hnodup (by simp)

theorem GenreRules.decode_inverts : Inverts GenreRules.decode GenreRules.encode := by
  rintro ⟨container, link⟩
  have hnodup : ["container", "link"].Nodup := by decide
  simp only [GenreRules.decode, GenreRules.encode, record]
  refine Checked.seq_eq_valid (Checked.map_eq_valid ?_) ?_
  all_goals exact Predicate.decodeAll_eq_valid _ hnodup (by simp)

theorem SummaryRules.decode_inverts : Inverts SummaryRules.decode SummaryRules.encode := by
  rintro ⟨container, boundaryTags⟩
  have hnodup : ["container", "boundary_tags"].Nodup := by decide
  simp only [SummaryRules.decode, SummaryRules.encode, record]
  refine Checked.seq_eq_valid (Checked.map_eq_valid ?_) ?_
  · exact Predicate.decodeAll_eq_valid _ hnodup (by simp)
  · exact texts_inverts.optional _ hnodup (by simp)

theorem InfoRules.decode_inverts : Inverts InfoRules.decode InfoRules.encode := by
  rintro ⟨container, label, statusContainer⟩
  have hnodup : ["container", "label", "status_container"].Nodup := by decide
  simp only [InfoRules.decode, InfoRules.encode, record]
  iterate 2 refine Checked.seq_eq_valid ?_ ?_
  · exact Checked.map_eq_valid (Predicate.decodeAll_eq_valid _ hnodup (by simp))
  all_goals exact Predicate.decodeAll_eq_valid _ hnodup (by simp)

theorem ChapterRules.decode_inverts : Inverts ChapterRules.decode ChapterRules.encode := by
  rintro ⟨container, endTag, item, linkTag, linkAttribute, number, title, date, price, lockedItem,
    lockGlyph⟩
  have hnodup : ["container", "end_tag", "item", "link_tag", "link_attribute", "number", "title",
    "date", "price", "locked_item", "lock_glyph"].Nodup := by decide
  simp only [ChapterRules.decode, ChapterRules.encode, record]
  iterate 10 refine Checked.seq_eq_valid ?_ ?_
  · exact Checked.map_eq_valid (Predicate.decodeAll_eq_valid _ hnodup (by simp))
  · exact nullableText_inverts.optional _ hnodup (by simp)
  · exact Predicate.decodeAll_eq_valid _ hnodup (by simp)
  · exact text_inverts.optional _ hnodup (by simp)
  · exact text_inverts.optional _ hnodup (by simp)
  · exact Predicate.decodeAll_eq_valid _ hnodup (by simp)
  · exact Predicate.decodeAll_eq_valid _ hnodup (by simp)
  · exact Predicate.decodeAll_eq_valid _ hnodup (by simp)
  · exact Predicate.decodeAll_eq_valid _ hnodup (by simp)
  · exact Predicate.decodeAll_eq_valid _ hnodup (by simp)
  · exact text_inverts.optional _ hnodup (by simp)

theorem ChapterListRequest.decode_inverts :
    Inverts ChapterListRequest.decode ChapterListRequest.encode := by
  rintro ⟨path, method, data⟩
  have hnodup : ["path", "method", "data"].Nodup := by decide
  simp only [ChapterListRequest.decode, ChapterListRequest.encode, record]
  iterate 2 refine Checked.seq_eq_valid ?_ ?_
  · exact Checked.map_eq_valid (text_inverts.optional _ hnodup (by simp))
  · exact text_inverts.optional _ hnodup (by simp)
  · exact text_inverts.orderedMap.optional _ hnodup (by simp)

/-! ## Grammars -/

theorem Grammar.decode_inverts : Inverts Grammar.decode Grammar.encode := by
  rintro ⟨id, sourceName, site, lang, cover, title, rating, genres, summary, info, chapters,
    reverseChapters, numbering, hasLocked, seriesPath, searchPath, chapterListRequest,
    contentClass, stripStyleClasses⟩
  have hnodup : ["id", "source_name", "site", "lang", "cover", "title", "rating", "genres",
    "summary", "info", "chapters", "reverse_chapters", "ordinal_policy", "has_locked",
    "series_path", "search_path", "chapter_list_request", "content_class",
    "strip_style_classes"].Nodup := by decide
  have hrequest : Inverts (nullable ChapterListRequest.decode)
      (.ofOption ChapterListRequest.encode) :=
    ChapterListRequest.decode_inverts.nullable fun _ => Json.noConfusion
  simp only [Grammar.decode, Grammar.encode, record]
  iterate 18 refine Checked.seq_eq_valid ?_ ?_
  · exact Checked.map_eq_valid (text_inverts.required hnodup (by simp))
  · exact text_inverts.required hnodup (by simp)
  · exact text_inverts.required hnodup (by simp)
  · exact text_inverts.optional _ hnodup (by simp)
  · exact CoverRules.decode_inverts.optional _ hnodup (by simp)
  · exact Predicate.decodeAll_eq_valid _ hnodup (by simp)
  · exact Predicate.decodeAll_eq_valid _ hnodup (by simp)
  · exact GenreRules.decode_inverts.optional _ hnodup (by simp)
  · exact SummaryRules.decode_inverts.optional _ hnodup (by simp)
  · exact InfoRules.decode_inverts.optional _ hnodup (by simp)
  · exact ChapterRules.decode_inverts.optional _ hnodup (by simp)
  · exact bool_inverts.optional _ hnodup (by simp)
  · exact (named_inverts Numbering.lookup_names).optional _ hnodup (by simp)
  · exact bool_inverts.optional _ hnodup (by simp)
  · exact text_inverts.optional _ hnodup (by simp)
  · exact text_inverts.optional _ hnodup (by simp)
  · exact hrequest.optional _ hnodup (by simp)
  · exact text_inverts.optional _ hnodup (by simp)
  · exact bool_inverts.optional _ hnodup (by simp)

/-! ## Texts -/

theorem Predicate.plain_encode {depth : Nat} (predicate : Predicate) :
    Plain (depth + 1) predicate.encode := by
  refine .obj ?_
  simp [Plain.str, plain_ofOption]

theorem Predicate.plain_encodeAll {depth : Nat} (predicates : List Predicate) :
    Plain (depth + 2) (Predicate.encodeAll predicates) := by
  refine .arr ?_
  simp [Predicate.plain_encode]

theorem CoverRules.plain_encode {depth : Nat} (rules : CoverRules) :
    Plain (depth + 3) rules.encode := by
  refine .obj ?_
  simp [Plain.str, plain_ofStrings, Predicate.plain_encodeAll]

theorem GenreRules.plain_encode {depth : Nat} (rules : GenreRules) :
    Plain (depth + 3) rules.encode := by
  refine .obj ?_
  simp [Predicate.plain_encodeAll]

theorem SummaryRules.plain_encode {depth : Nat} (rules : SummaryRules) :
    Plain (depth + 3) rules.encode := by
  refine .obj ?_
  simp [plain_ofStrings, Predicate.plain_encodeAll]

theorem InfoRules.plain_encode {depth : Nat} (rules : InfoRules) :
    Plain (depth + 3) rules.encode := by
  refine .obj ?_
  simp [Predicate.plain_encodeAll]

theorem ChapterRules.plain_encode {depth : Nat} (rules : ChapterRules) :
    Plain (depth + 3) rules.encode := by
  refine .obj ?_
  simp [Plain.str, plain_ofOption, Predicate.plain_encodeAll]

theorem ChapterListRequest.plain_encode {depth : Nat} (request : ChapterListRequest) :
    Plain (depth + 2) request.encode := by
  have hdata : ∀ member ∈ request.data.entries.map fun entry => (entry.1, Json.str entry.2),
      Plain depth member.2 := by
    intro member hmember
    obtain ⟨entry, -, rfl⟩ := List.mem_map.1 hmember
    exact .str entry.2
  refine .obj ?_
  simp only [List.forall_mem_cons, Plain.str, true_and]
  exact ⟨.obj hdata, by simp⟩

theorem Grammar.plain_encode {depth : Nat} (grammar : Grammar) :
    Plain (depth + 4) grammar.encode := by
  refine .obj ?_
  simp [Plain.str, Plain.bool, plain_ofOption, Predicate.plain_encodeAll,
    CoverRules.plain_encode, GenreRules.plain_encode, SummaryRules.plain_encode,
    InfoRules.plain_encode, ChapterRules.plain_encode, ChapterListRequest.plain_encode]

theorem Grammar.ofText_toText (grammar : Grammar) :
    Grammar.ofText grammar.toText = .valid grammar := by
  -- a predicate among the rules of a part stands at the fourth level
  have hplain : Plain Json.maxDepth grammar.encode := @Grammar.plain_encode 196 grammar
  simp only [Grammar.ofText, Grammar.toText, hplain.read?_indented]
  exact Grammar.decode_inverts grammar

/-! ## The store -/

namespace Directory

variable {directory : Directory} {file other text : String}

theorem read_of_get? (h : directory.files.get? file = some text) :
    directory.read file = .ok (some text) := by
  simp [read, h]

theorem mem_keys_of_read (h : directory.read file = .ok (some text)) :
    file ∈ directory.files.keys := by
  rw [← OrderedMap.isSome_get?_iff]
  unfold read at h
  cases hfile : directory.files.get? file with
  | some text => rfl
  | none =>
      rw [hfile] at h
      cases hillegible : directory.illegible.get? file <;> simp [hillegible] at h

theorem read_eq_none_iff : directory.read file = .ok none ↔ file ∉ directory.names := by
  rw [names, List.mem_append, ← OrderedMap.isSome_get?_iff, ← OrderedMap.isSome_get?_iff]
  unfold read
  cases directory.files.get? file with
  | some text => simp
  | none => cases directory.illegible.get? file <;> simp

/-- A file that was written has the text of its bytes, or the fault that they have. -/
theorem read_write (directory : Directory) (file other : String) (bytes : Encoding.Bytes) :
    (directory.write file bytes).read other =
      if other = file then
        match Encoding.Utf8.findFault? 0 bytes with
        | none => .ok (some (Encoding.Utf8.decode bytes))
        | some (fault, position) => .error (.encoding (.foreignByte fault position))
      else directory.read other := by
  unfold write
  split
  all_goals
    rename_i hfault
    by_cases h : other = file <;>
      simp [read, OrderedMap.get?_insert, OrderedMap.get?_erase, h, hfault]

theorem read_write_encode (directory : Directory) (file other text : String) :
    (directory.write file (Encoding.Utf8.encode text)).read other =
      if other = file then .ok (some text) else directory.read other := by
  rw [read_write, Encoding.Utf8.findFault?_encode, Encoding.Utf8.decode_encode]

theorem read_remove (directory : Directory) (file other : String) :
    (directory.remove file).read other =
      if other = file then .ok none else directory.read other := by
  by_cases h : other = file <;> simp [read, remove, OrderedMap.get?_erase, h]

end Directory

namespace GrammarStore

theorem put_eq_ok_iff {store store' : GrammarStore} {grammar : Grammar} {name : String} :
    store.put grammar = .ok (name, store') ↔
      ∃ directory, store.directory = some directory ∧ usableName grammar.id = .ok name ∧
        store' = ⟨some (directory.write name (Encoding.Utf8.encode grammar.toText))⟩ := by
  unfold put
  cases hdirectory : store.directory with
  | none => simp
  | some directory =>
      cases hname : usableName grammar.id with
      | error failure => simp [bind, Except.bind]
      | ok other =>
          simp only [bind, Except.bind, Except.ok.injEq, Prod.mk.injEq, Option.some.injEq,
            exists_eq_left']
          constructor
          · rintro ⟨rfl, rfl⟩
            exact ⟨rfl, rfl⟩
          · rintro ⟨rfl, rfl⟩
            exact ⟨rfl, rfl⟩

theorem get_eq_ofText {store : GrammarStore} {directory : Directory} {id name text : String}
    (hdirectory : store.directory = some directory) (hname : usableName id = .ok name)
    (htext : directory.read name = .ok (some text)) {grammar : Grammar}
    (h : Grammar.ofText text = .valid grammar) : store.get id = .ok grammar := by
  simp [get, hdirectory, hname, htext, h, bind, Except.bind]

/-- The text of a grammar is read as this grammar, and a grammar that was put into a store is what
the store has under its id. -/
theorem get_of_put (grammar : Grammar) :
    Grammar.ofText grammar.toText = .valid grammar ∧
      ∀ (store store' : GrammarStore) (name : String),
        store.put grammar = .ok (name, store') → store'.get grammar.id = .ok grammar := by
  refine ⟨grammar.ofText_toText, fun store store' name hput => ?_⟩
  obtain ⟨directory, -, hname, rfl⟩ := put_eq_ok_iff.1 hput
  refine get_eq_ofText rfl hname ?_ grammar.ofText_toText
  rw [Directory.read_write_encode, if_pos rfl]

/-- Characters that need escapes, empty lists, tests with and without a tag, a list of chapters
without an end tag, and a request with data. -/
private def escapedGrammar : Grammar where
  id := "shelf/7"
  sourceName := "The \"Shelf\"\n\u0001 \u06f5"
  site := "https://shelf.example/"
  cover := { image := [], sourceAttributes := [] }
  title := [.classIsOn "h1" "entry-title", .attributeIs "itemprop" "na\\me"]
  chapters := { endTag := none, item := [] }
  numbering := .position
  chapterListRequest := some { data := OrderedMap.ofList [("page", "1"), ("action", "")] }

private def usedStore : GrammarStore where
  directory := some {
    path := "grammars"
    files := OrderedMap.ofList [("shelf_7.json", "[]"), ("other.json", "\x7b\x7d")] }

theorem get_of_put_escapedGrammar :
    ∃ store', usedStore.put escapedGrammar = .ok ("shelf_7.json", store') ∧
      store'.get "shelf/7" = .ok escapedGrammar := by
  have hname : usableName "shelf/7" = .ok "shelf_7.json" := rfl
  have hput : usedStore.put escapedGrammar = .ok ("shelf_7.json", _) :=
    put_eq_ok_iff.2 ⟨_, rfl, hname, rfl⟩
  exact ⟨_, hput, (get_of_put escapedGrammar).2 usedStore _ _ hput⟩

end GrammarStore

end Feuilleton
