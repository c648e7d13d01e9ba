import Exemplar.Config.Layer
import Exemplar.Text.Digits
import Exemplar.Text.Split
import Exemplar.Text.Toml.Document

namespace Exemplar

structure FileTree where
  files : List (List String × String)

namespace FileTree

def components (path : String) : List String :=
  ((Text.splitAtChar '/' path.toList).filter (!·.isEmpty)).map String.ofList

def ofList (files : List (String × String)) : FileTree :=
  ⟨files.map fun f => (components f.1, f.2)⟩

def content? (t : FileTree) (path : List String) : Option String := t.files.lookup path

/-- The directories that are there without any file in them: the working directory, the home
directory, and those of the user's and the system's settings. -/
def standing : List (List String) := [[], ["cwd"], ["home"], ["xdg"], ["xdgdirs"]]

def isDirectory (t : FileTree) (path : List String) : Bool :=
  standing.contains path ||
    t.files.any fun f => path.isPrefixOf f.1 && path.length < f.1.length

/-- Follows the components of a path from a directory on. Every component but the last has to lead to
a directory. -/
def follow (t : FileTree) (directory : List String) : List String → Option (List String)
  | [] => some directory
  | component :: rest =>
    if !t.isDirectory directory then none
    else if component = "." then t.follow directory rest
    else if component = ".." then
      if directory.isEmpty then none else t.follow directory.dropLast rest
    else t.follow (directory ++ [component]) rest

/-- The file that a path leads to, starting in a directory. Absolute paths lead out of the tree. -/
def find? (t : FileTree) (directory : List String) (path : String) : Option (List String × String) :=
  let cs := path.toList
  if cs.head? = some '/' || cs.getLast? = some '/' then none
  else do
    let file ← t.follow directory (components path)
    return (file, ← t.content? file)

/-- The part of a file's name behind its last point, if something stands in front of it. -/
def extension? (path : List String) : Option String := do
  let name := (← path.getLast?).toList
  let reversed := name.reverse.takeWhile (· ≠ '.')
  if reversed.length + 1 < name.length then some (String.ofList reversed.reverse) else none

/-- A file whose name promises another form than the one that is read. -/
def isForeign (path : List String) : Bool :=
  match extension? path with
  | some e => ["json", "json5", "yaml", "yml"].contains (Text.asciiLower e)
  | none => false

end FileTree

namespace Layer

open Text.Toml (Entries Item)

def setting? (entries : Entries) (key : String) : Option SourceValue :=
  (entries.lookup key).map fun
    | .text s => .text s
    | _ => .other

def ofEntries (entries : Entries) : Layer :=
  ⟨setting? entries "log_filter", setting? entries "log_format", setting? entries "name_separator"⟩

/-- The layer of a file that was found, with the files that it extends below it. No file may be met
twice on the way; `depth` bounds its length. -/
def ofFile? (t : FileTree) : (depth : Nat) → (met : List (List String)) → List String → String →
    Option Layer
  | 0, _, _, _ => none
  | depth + 1, met, path, content =>
    if FileTree.isForeign path || met.contains path then none
    else do
      let entries ← Text.Toml.parse content
      let own := ofEntries entries
      match setting? entries "extends" with
      | none => return own
      | some .other => none
      | some (.text parent) =>
        if parent = "" then none
        else
          let (parentPath, parentContent) ← t.find? path.dropLast parent
          return own.above (← ofFile? t depth (path :: met) parentPath parentContent)

end Layer

namespace FileTree

/-- The layer of a file at a path, `none` if there is no such file. The inner option is `none` if the
file cannot be read. -/
def layerAt (t : FileTree) (directory : List String) (path : String) : Option (Option Layer) :=
  (t.find? directory path).map fun (file, content) =>
    Layer.ofFile? t (t.files.length + 1) [] file content

/-- Where files are looked for when no command line names one, in order: the file that a variable
names, if it is set, and then the usual places. -/
def places (configured : Option String) : List (List String × String) :=
  let named :=
    match configured with
    | some path => if path = "" then [] else [(["cwd"], path)]
    | none => []
  let bases := [["xdg"], ["xdgdirs"], ["home", ".config"]]
  named ++ bases.flatMap (fun base => [(base, "sprout/config.toml"), (base, ".sprout.toml")]) ++
    [(["home"], ".sprout.toml"), (["cwd"], ".sprout.toml")]

/-- The layer of the first file that can be read. Files that cannot be read do no harm if one can. -/
def discover (t : FileTree) (configured : Option String) : Except ConfigError Layer :=
  let found := (places configured).filterMap fun place => t.layerAt place.1 place.2
  match found.findSome? id with
  | some layer => .ok layer
  | none => if found.isEmpty then .ok .empty else .error .load

/-- The layer of files: of the one that the command line names, which has to be readable, or else of
the one that is found. -/
def layer (t : FileTree) (named configured : Option String) : Except ConfigError Layer :=
  match named with
  | some path =>
    match t.layerAt ["cwd"] path with
    | some (some layer) => .ok layer
    | _ => .error .load
  | none => t.discover configured

end FileTree

end Exemplar
