import BindingRepair.PathName
import BindingRepair.Text.LineBreak
import BindingRepair.Text.Utf8

/-!
Files in directories. A directory is there if it is listed or if something is in it. To go through a
path, each component in front of another must be a directory, also one that is left again.
-/

namespace BindingRepair

structure FileTree where
  directories : List (List String) := []
  files : List (List String × List UInt8) := []

namespace FileTree

def isDirectory (t : FileTree) (place : List String) : Bool :=
  place = [] || t.directories.any place.isPrefixOf ||
    t.files.any fun (file, _) => place.isPrefixOf file && place ≠ file

def octetsAt? (t : FileTree) (place : List String) : Option (List UInt8) :=
  t.files.lookup place

def placeFrom? (t : FileTree) (directory : List String) : List String → Option (List String)
  | [] => some directory
  | part :: rest =>
    if !t.isDirectory directory then none
    else if part = ".." then placeFrom? t directory.dropLast rest
    else placeFrom? t (directory ++ [part]) rest

def read? (t : FileTree) (path : PathName) : Option (List UInt8) :=
  (t.placeFrom? [] path.parts).bind t.octetsAt?

def isFile (t : FileTree) (path : PathName) : Bool :=
  (t.read? path).isSome

/-- The text of a file, in which every line ends with a line feed. -/
def readText? (t : FileTree) (path : PathName) : Option (Except Text.OctetError String) :=
  (t.read? path).map fun octets =>
    (Text.decodeUtf8 octets).map fun text => String.ofList (Text.normalizeNewlines text.toList)

def replaceAt (place : List String) (octets : List UInt8) :
    List (List String × List UInt8) → List (List String × List UInt8)
  | [] => []
  | (other, old) :: rest =>
    if other = place then (other, octets) :: rest
    else (other, old) :: replaceAt place octets rest

/-- Writes a text to the file that a path leads to, if there is one. -/
def writeText (t : FileTree) (path : PathName) (text : String) : FileTree :=
  match t.placeFrom? [] path.parts with
  | some place => { t with files := replaceAt place (Text.encodeUtf8 text) t.files }
  | none => t

def addFile (t : FileTree) (path : PathName) (octets : List UInt8) : FileTree :=
  { t with files := t.files ++ [(path.parts, octets)] }

def addText (t : FileTree) (path : PathName) (text : String) : FileTree :=
  t.addFile path (Text.encodeUtf8 text)

end FileTree

end BindingRepair
