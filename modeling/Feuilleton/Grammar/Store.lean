import Feuilleton.Failure
import Feuilleton.Grammar.Codec

/-!
# The store of grammars

Grammars of known sites are always there. A directory can hold further ones, one file for each,
and a file wins over the known grammar of the same site. Characters that file systems might not
take are replaced in file names. Files are bytes; those that are UTF-8 are kept as texts, the others
with what is wrong with them.
-/

namespace Feuilleton

/-- The content of a file that is not UTF-8. -/
structure Illegible where
  bytes : Encoding.Bytes
  fault : Encoding.Fault
  position : Nat
  isFault : Encoding.Utf8.findFault? 0 bytes = some (fault, position)
  deriving Repr

structure Directory where
  path : String
  files : OrderedMap String := ∅
  illegible : OrderedMap Illegible := ∅
  deriving Repr

structure GrammarStore where
  directory : Option Directory := none
  deriving Repr

namespace Directory

/-- The path of a file in the directory. -/
def locate (directory : Directory) (file : String) : String :=
  if directory.path == "." then file
  else if directory.path.endsWith "/" then directory.path ++ file
  else directory.path ++ "/" ++ file

def names (directory : Directory) : List String :=
  directory.files.keys ++ directory.illegible.keys

/-- The text of a file, if it is there. -/
def read (directory : Directory) (file : String) : Except Failure (Option String) :=
  match directory.files.get? file with
  | some text => .ok (some text)
  | none =>
      match directory.illegible.get? file with
      | some content =>
          .error (.encoding (.foreignByte content.fault content.position))
      | none => .ok none

def remove (directory : Directory) (file : String) : Directory :=
  { directory with
    files := directory.files.erase file
    illegible := directory.illegible.erase file }

def write (directory : Directory) (file : String) (bytes : Encoding.Bytes) : Directory :=
  match isFault : Encoding.Utf8.findFault? 0 bytes with
  | none =>
      { directory with
        files := directory.files.insert file (Encoding.Utf8.decode bytes)
        illegible := directory.illegible.erase file }
  | some (fault, position) =>
      { directory with
        files := directory.files.erase file
        illegible := directory.illegible.insert file { bytes, fault, position, isFault } }

/-- A directory with these files. -/
def ofContents (path : String) (contents : List (String × Encoding.Bytes)) : Directory :=
  contents.foldl (fun directory (file, bytes) => directory.write file bytes) { path }

end Directory

namespace GrammarStore

/-! ## File names -/

def isFileChar (c : Char) : Bool :=
  Text.isAlphanumeric c || c == '-' || c == '_' || c == '.'

def extension : String := ".json"

def fileName (id : String) : String :=
  String.ofList (id.toList.map fun c => if isFileChar c then c else '_') ++ extension

/-- A file system takes no longer names. -/
def maxNameBytes : Nat := 255

/-- The file of a site in a directory that can hold it. -/
def usableName (id : String) : Except Failure String :=
  let name := fileName id
  if maxNameBytes < name.utf8ByteSize then .error .unusableFile else .ok name

/-- A file name without its extension; a point at the very beginning begins none. -/
def stem (name : String) : String :=
  let reversed := name.toList.reverse
  let last := reversed.takeWhile (· != '.')
  let rest := reversed.drop (last.length + 1)
  if last.isEmpty || rest.isEmpty then name else String.ofList rest.reverse

/-! ## Operations -/

def known (id : String) : Except Failure Grammar :=
  match Grammar.known? id with
  | some grammar => .ok grammar
  | none => .error (.unknownSite id)

def get (store : GrammarStore) (id : String) : Except Failure Grammar :=
  match store.directory with
  | none => known id
  | some directory => do
      let name ← usableName id
      match ← directory.read name with
      | none => known id
      | some text =>
          match Grammar.ofText text with
          | .valid grammar => .ok grammar
          | .invalid issues => .error (.invalidGrammar (directory.locate name) issues)

/-- Writes a grammar; the name of its file is returned with the new store. -/
def put (store : GrammarStore) (grammar : Grammar) : Except Failure (String × GrammarStore) :=
  match store.directory with
  | none => .error .noDirectory
  | some directory => do
      let name ← usableName grammar.id
      let bytes := Encoding.Utf8.encode grammar.toText
      .ok (name, { directory := some (directory.write name bytes) })

/-- Removes the file of a site, if there is one; known grammars stay. -/
def delete (store : GrammarStore) (id : String) : Except Failure (Bool × GrammarStore) :=
  match store.directory with
  | none => .ok (false, store)
  | some directory => do
      let name ← usableName id
      if directory.names.contains name then
        .ok (true, { directory := some (directory.remove name) })
      else .ok (false, store)

def storedIds (directory : Directory) : List String :=
  (directory.names.filter fun name =>
    extension.toList.isSuffixOf name.toList).map stem

/-- The ids of all grammars, in order and each once. -/
def sites (store : GrammarStore) : List String :=
  let stored := (store.directory.map storedIds).getD []
  ((Grammar.knownSites.map (·.id) ++ stored).mergeSort (· ≤ ·)).eraseDups

end GrammarStore

end Feuilleton
