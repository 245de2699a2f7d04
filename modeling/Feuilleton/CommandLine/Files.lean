import Feuilleton.Encoding.Basic
import Feuilleton.Failure

/-!
# Files

The files that a command meets. A place is written as the names that lead there from the working
directory, where `..` stands for the directory around. Every place is written in one way: all `..`
come first, and the name behind them does not lead back to where they came from.
-/

namespace Feuilleton.CommandLine

abbrev Path := List String

namespace Path

/-- The names of a path as it is written; a single point stands for nothing. -/
def ofText (text : String) : Path :=
  (Text.split '/' text).filter fun name => !name.isEmpty && name != "."

/-- The slashes that a path as it is written keeps in front: two are not the same as one. -/
def rootOf (text : String) : String :=
  if !Text.startsWith "/" text then ""
  else if Text.startsWith "//" text && !Text.startsWith "///" text then "//"
  else "/"

def isAbsolute (text : String) : Bool :=
  Text.startsWith "/" text

/-- A path as it is written without empty names and points. -/
def normalised (text : String) : String :=
  let names := rootOf text ++ Text.join "/" (ofText text)
  if names.isEmpty then "." else names

/-- The last name of a path as it is written. -/
def lastName (text : String) : String :=
  (ofText text).getLast?.getD ""

/-- The place of the working directory or of one around it. -/
def isAround (place : Path) : Bool :=
  place.all (· == "..")

end Path

structure Files where
  /-- The names that lead from the root to the working directory. -/
  home : Path := ["work"]
  contents : List (Path × Encoding.Bytes) := []
  directories : List Path := []
  deriving Repr

namespace Files

def maxNameBytes : Nat := 255

def maxPathBytes : Nat := 4095

def content? (files : Files) (path : Path) : Option Encoding.Bytes :=
  files.contents.lookup path

def isDirectory (files : Files) (path : Path) : Bool :=
  path.isAround || files.directories.contains path ||
    files.contents.any fun (other, _) => path.isPrefixOf other && path != other

/-! ## Ways -/

/-- The place to which a name leads from a directory. The root is around itself. -/
def follow (files : Files) (place : Path) (name : String) : Path :=
  if name == ".." then
    if !place.isAround then place.dropLast
    else if place.length < files.home.length then place ++ [name]
    else place
  else if place.isAround && files.home[files.home.length - place.length]? == some name then
    place.dropLast
  else place ++ [name]

/-- Where a path begins. -/
def start (files : Files) (text : String) : Path :=
  if Path.isAbsolute text then List.replicate files.home.length ".." else []

/-- Where a path leads, from a place on; none if something on the way does not exist. -/
def walk (files : Files) (place : Path) : Path → Except Failure (Option Path)
  | [] => .ok (some place)
  | name :: rest =>
      if !files.isDirectory place then .ok none
      else if maxNameBytes < name.utf8ByteSize then .error .unusableFile
      else files.walk (files.follow place name) rest

/-- Where a written path leads. -/
def resolve (files : Files) (text : String) : Except Failure (Option Path) :=
  if text.toList.contains '\x00' then .ok none
  else if maxPathBytes < (Path.normalised text).utf8ByteSize then .error .unusableFile
  else files.walk (files.start text) (Path.ofText text)

/-- The content of a file, if a written path leads to one. -/
def find (files : Files) (text : String) : Except Failure (Option Encoding.Bytes) := do
  match ← files.resolve text with
  | some path => .ok (files.content? path)
  | none => .ok none

/-! ## Directories -/

/-- Makes a directory and those around it. -/
def makeDirectory (files : Files) (place : Path) : Path → Except Failure (Files × Path)
  | [] => .ok (files, place)
  | name :: rest =>
      let inner := files.follow place name
      if maxNameBytes < name.utf8ByteSize then .error .unusableFile
      else if (files.content? inner).isSome then .error .unusableFile
      else ({ files with directories := files.directories ++ [inner] }).makeDirectory inner rest

/-- The directory of a written path, which is made if it does not exist. -/
def openDirectory (files : Files) (text : String) : Except Failure (Files × Path) :=
  if maxPathBytes < (Path.normalised text).utf8ByteSize then .error .unusableFile
  else files.makeDirectory (files.start text) (Path.ofText text)

/-- The files that stand directly in a directory, under their names. -/
def entries (files : Files) (place : Path) : List (String × Encoding.Bytes) :=
  files.contents.filterMap fun (path, content) =>
    if path.dropLast == place then path.getLast?.map fun name => (name, content) else none

/-- Where a new file is written: its directory must exist, and it must not be one itself. -/
def target (files : Files) (text : String) : Except Failure Path := do
  match ← files.resolve text with
  | none => .error .unusableFile
  | some path => if files.isDirectory path then .error .unusableFile else .ok path

end Files

end Feuilleton.CommandLine
