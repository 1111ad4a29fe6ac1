import QueryRewriting.CommandLine.Command

/-!
A working directory in memory. A path is followed name by name: each name but the last must lead to
a directory, so `missing/..` leads nowhere. A file holds text only if its bytes are UTF-8.
-/

namespace QueryRewriting.CommandLine

/-- What a name in a directory stands for. -/
inductive DirectoryEntry where
  | file (content : ByteArray)
  | directory

/-- The bytes that pairs of hexadecimal digits write. -/
def hexBytes : List Char → List UInt8
  | high :: low :: rest =>
    let digit (c : Char) : Nat := (Json.Parser.hexValue? c).getD 0
    (digit high * 16 + digit low).toUInt8 :: hexBytes rest
  | _ => []

/-- A file whose bytes are given by hexadecimal digits. -/
def DirectoryEntry.ofHex (digits : String) : DirectoryEntry :=
  .file ⟨(hexBytes digits.toList).toArray⟩

/-- A file that holds a text. -/
def DirectoryEntry.ofText (text : String) : DirectoryEntry := .file text.toUTF8

/-- Why a path gives no text. -/
inductive ReadFailure where
  | notFound
  | notDirectory
  | isDirectory
  | nameTooLong
  | nulInName
  | notText
  deriving DecidableEq

/-- The text of a failure, as the system reports it. -/
def ReadFailure.message : ReadFailure → String
  | .notFound => "No such file or directory (os error 2)"
  | .notDirectory => "Not a directory (os error 20)"
  | .isDirectory => "Is a directory (os error 21)"
  | .nameTooLong => "File name too long (os error 36)"
  | .nulInName => "file name contained an unexpected NUL byte"
  | .notText => "stream did not contain valid UTF-8"

/-- A working directory: its entries by path. -/
structure Directory where
  entries : List (String × DirectoryEntry)

/-- The names from the root to a file or a directory. -/
abbrev Place := List String

namespace Directory

/-- The greatest number of bytes in a name. -/
def nameLimit : Nat := 255

/-- The number of bytes that a path must not reach. -/
def pathLimit : Nat := 4096

/-- The working directory is a nameless one among the temporary files. -/
def workingPlace : Place := ["tmp", ""]

/-- What lies outside of the working directory: the directories that every system has, and the file
that is always empty. -/
def surroundings : List (Place × DirectoryEntry) :=
  (["bin", "boot", "dev", "etc", "home", "lib", "media", "mnt", "opt", "proc", "root", "run",
    "sbin", "srv", "sys", "tmp", "usr", "var"].map fun name => ([name], .directory)) ++
  [(["dev", "null"], .file .empty)]

variable (directory : Directory)

/-- Everything that there is, by its place. -/
def everything : List (Place × DirectoryEntry) :=
  surroundings ++ directory.entries.map fun (path, entry) =>
    (workingPlace ++ (path.splitOn "/").filter (fun name => name ≠ "" ∧ name ≠ "."), entry)

/-- What is at a place. Every place above something is a directory. -/
def entry? (place : Place) : Option DirectoryEntry :=
  match directory.everything.lookup place with
  | some entry => some entry
  | none =>
    let above (other : Place) : Bool := place.isPrefixOf other
    if above workingPlace || directory.everything.any fun entry => above entry.1 then
      some .directory
    else none

/-- Follows one name of a path. The root is above itself. -/
def follow (place : Place) (name : String) : Except ReadFailure Place :=
  match directory.entry? place with
  | none => .error .notFound
  | some (.file _) => .error .notDirectory
  | some .directory =>
    if name = "" ∨ name = "." then .ok place
    else if name = ".." then .ok place.dropLast
    else if nameLimit < name.utf8ByteSize then .error .nameTooLong
    else if (directory.entry? (place ++ [name])).isNone then .error .notFound
    else .ok (place ++ [name])

/-- The place that a path leads to, from the root if it starts with a slash. -/
def place (path : String) : Except ReadFailure Place :=
  if path.toList.contains '\x00' then .error .nulInName
  else if path = "" then .error .notFound
  else if pathLimit ≤ path.utf8ByteSize then .error .nameTooLong
  else
    let start := if path.startsWith "/" then [] else workingPlace
    (path.splitOn "/").foldlM directory.follow start

/-- The text of a file. -/
def read (path : String) : Except ReadFailure String := do
  match directory.entry? (← directory.place path) with
  | none => throw .notFound
  | some .directory => throw .isDirectory
  | some (.file content) =>
    match String.fromUTF8? content with
    | some text => return text
    | none => throw .notText

/-- The files of a directory as commands see them. -/
def files : Files := fun path => (directory.read path).mapError ReadFailure.message

end Directory

end QueryRewriting.CommandLine
