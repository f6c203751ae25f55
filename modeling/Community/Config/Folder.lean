import Community.Config.Path
import Community.Json.Draft
import Community.Text.Blank
import Community.Toml.Reader

/-!
# The files of a folder

Configuration files are looked up by a name relative to a folder. A name may be that of a
file, or lack its extension; the extension tells the format. What a file says becomes
settings that remember the file.
-/

namespace Community.Config

open Text

/-- The files below a folder: their paths and texts. -/
abbrev Folder := List (String × String)

/-- The formats of configuration files. -/
inductive Format
  | toml
  | json
  deriving DecidableEq, Repr

/-- The extension of a format. -/
def Format.extension : Format → String
  | toml => "toml"
  | json => "json"

/-- The formats in the order in which they are looked for. -/
def Format.all : List Format :=
  [.toml, .json]

/-! ## Paths of files -/

/-- The components of a path. Empty ones and single points do not count. -/
def components (path : String) : List String :=
  ((splitOn '/' path.toList).map String.ofList).filter fun c => c ≠ "" ∧ c ≠ "."

/-- Whether a path begins at the root of all folders. -/
def isAbsolute (path : String) : Bool :=
  path.toList.head? == some '/'

/-- Whether a path can only be that of a folder. -/
def endsAsFolder (path : String) : Bool :=
  match (splitOn '/' path.toList).getLast? with
  | some last => last == [] || last == ['.']
  | none => false

namespace Folder

/-- Whether a path, given by its components, is that of a folder with a file
somewhere below it. -/
def hasFolder (f : Folder) (path : List String) : Bool :=
  f.any fun file => path.isPrefixOf (components file.1) &&
    path.length < (components file.1).length

/-- The path from the folder to what components lead to. Going up takes a folder to go up
from; nothing outside is reached. `here` is where the way has led so far, backwards. -/
def resolve? (f : Folder) : List String → List String → Option (List String)
  | here, [] => some here.reverse
  | here, c :: rest =>
    if c = ".." then
      match here with
      | [] => none
      | _ :: up => if f.hasFolder here.reverse then f.resolve? up rest else none
    else f.resolve? (c :: here) rest

/-- The text of the file that components lead to. -/
def read? (f : Folder) (path : List String) : Option String := do
  let real ← f.resolve? [] path
  (f.find? fun file => components file.1 = real).map (·.2)

end Folder

/-! ## Looking for a file -/

/-- A file that was found: the components of its path, its format and its text. -/
structure Source where
  path : List String
  format : Format
  text : String

/-- The format that the extension of a file name tells. -/
def formatOf? (name : String) : Option Format :=
  match (splitOn '.' name.toList).reverse with
  | extension :: _ :: _ =>
    Format.all.find? fun f => f.extension.toList == extension &&
      name.toList != '.' :: extension
  | _ => none

/-- The path with an extension added. -/
def withExtension (path : List String) (f : Format) : List String :=
  path.dropLast ++ (path.getLast?.map fun name => name ++ "." ++ f.extension).toList

/-- Looks for a file by its name, with or without its extension. A file of exactly this name
is taken, or refused for its format, before any other. -/
def Folder.source? (f : Folder) (name : String) : Option Source := do
  if isAbsolute name then none
  let path := components name
  let file ← path.getLast?
  match if endsAsFolder name then none else f.read? path with
  | some text => return ⟨path, ← formatOf? file, text⟩
  | none =>
    if file = ".." then none
    Format.all.findSome? fun format =>
      (f.read? (withExtension path format)).map fun text =>
        ⟨withExtension path format, format, text⟩

/-! ## Contents -/

mutual

/-- A TOML value as a setting. A moment is taken as text. -/
def ofToml (o : Origin) : Toml → Setting
  | .bool b => .scalar (.bool b) o
  | .int n => .scalar (.int n) o
  | .float x => .scalar (.float x) o
  | .text s => .scalar (.text s) o
  | .moment m => .scalar (.text m.text) o
  | .list items => .list (ofTomlItems o items) o
  | .table entries => .group (ofTomlEntries o entries) o

@[inherit_doc ofToml]
def ofTomlItems (o : Origin) : List Toml → List Setting
  | [] => []
  | v :: vs => ofToml o v :: ofTomlItems o vs

@[inherit_doc ofToml]
def ofTomlEntries (o : Origin) : List (String × Toml) → List (String × Setting)
  | [] => []
  | (name, v) :: rest => (name, ofToml o v) :: ofTomlEntries o rest

end

mutual

/-- A JSON value as a setting. An integer beyond the signed 64-bit numbers is
taken as a float. -/
def ofJson (o : Origin) : Json → Setting
  | .null => .scalar .null o
  | .bool b => .scalar (.bool b) o
  | .int n => .scalar (if n ≤ int64Max then .int n else .float n.toNat.toUInt64.toFloat) o
  | .float x => .scalar (.float x) o
  | .str s => .scalar (.text s) o
  | .arr items => .list (ofJsonItems o items) o
  | .obj members => .group (ofJsonMembers o members) o

@[inherit_doc ofJson]
def ofJsonItems (o : Origin) : List Json → List Setting
  | [] => []
  | v :: vs => ofJson o v :: ofJsonItems o vs

@[inherit_doc ofJson]
def ofJsonMembers (o : Origin) : List (String × Json) → List (String × Setting)
  | [] => []
  | (name, v) :: rest => (name, ofJson o v) :: ofJsonMembers o rest

end

/-- The JSON value of a whole text, unless its containers lie too deep in one another. -/
def readJson? (s : String) : Option Json :=
  let doc := Json.Draft.read s
  if doc.ended then doc.value.json? 128 else none

/-- The text without the mark of its byte order. -/
def dropByteOrderMark (s : String) : String :=
  match s.toList with
  | '\ufeff' :: cs => String.ofList cs
  | _ => s

/-- The settings of a file, unless it breaks the rules of its format. The whole file has to
be a group. A byte order mark may stand in front of TOML, but not of JSON. -/
def Source.settings? (s : Source) : Option (List (String × Setting)) :=
  let origin := Origin.file ("/".intercalate s.path)
  match s.format with
  | .toml => (Toml.read? (dropByteOrderMark s.text)).map (ofTomlEntries origin)
  | .json =>
    match readJson? s.text with
    | some (.obj members) => some (ofJsonMembers origin members)
    | _ => none

end Community.Config
