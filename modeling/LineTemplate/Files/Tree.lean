import LineTemplate.Files
import LineTemplate.Text.Split

/-!
A file tree in memory: directories and files below a root, at which relative paths start. A path is
followed name by name, and what it passes through must be a directory. Whatever lies above the root
is unknown: it can be passed through, and there is nothing in it.
-/

namespace LineTemplate

inductive FileNode where
  | directory
  | file (content : Except FileError String)

/-- Nodes by their names from the root, the last name first. -/
structure FileTree where
  nodes : List (List String × FileNode)

namespace FileTree

/-- Where a path leads. -/
inductive Place where
  | within (names : List String)
  | above
  deriving DecidableEq, Repr

def empty : FileTree := ⟨[]⟩

/-- The root is always there. -/
def node? (tree : FileTree) : Place → Option FileNode
  | .above => some .directory
  | .within [] => some .directory
  | .within names => (tree.nodes.find? fun entry => entry.1 == names).map Prod.snd

/-- A step by one name out of a directory. -/
def Place.enter : Place → String → Place
  | .within names, name => .within (name :: names)
  | .above, _ => .above

def Place.parent : Place → Place
  | .within (_ :: names) => .within names
  | .within [] => .above
  | .above => .above

/-- What stands at a place, which must be there. -/
def nodeAt (tree : FileTree) (place : Place) : Except FileError FileNode :=
  match tree.node? place with
  | some node => .ok node
  | none => .error .notFound

def expectDirectory (tree : FileTree) (place : Place) : Except FileError Unit :=
  match tree.nodeAt place with
  | .ok .directory => .ok ()
  | .ok (.file _) => .error .notDirectory
  | .error error => .error error

/-- Names have at most 255 bytes. -/
def isTooLong (name : String) : Bool :=
  255 < name.utf8ByteSize

/-- Follows names from a place. An empty name stands for the directory itself, and nothing is found
by name above the root. -/
def follow (tree : FileTree) (place : Place) : List String → Except FileError Place
  | [] => .ok place
  | name :: rest => do
      tree.expectDirectory place
      if name = "" ∨ name = "." then tree.follow place rest
      else if name = ".." then tree.follow place.parent rest
      else if isTooLong name then throw .nameTooLong
      else
        match place with
        | .above => throw .notFound
        | .within _ => tree.follow (place.enter name) rest

/-- The names in a path. -/
def pathNames (path : String) : List String :=
  (Text.splitOn '/' path.toList).map String.ofList

def startOf (path : String) : Place :=
  if path.startsWith "/" then .above else .within []

/-- A path has at least one character, no NUL, and fewer than 4096 bytes. -/
def checkPath (path : String) : Except FileError Unit :=
  if path.toList.contains '\x00' then .error .nulInPath
  else if path.isEmpty then .error .notFound
  else if 4096 ≤ path.utf8ByteSize then .error .nameTooLong
  else .ok ()

def locate (tree : FileTree) (path : String) : Except FileError Place := do
  checkPath path
  tree.follow (startOf path) (pathNames path)

def entry (tree : FileTree) (path : String) : FileEntry :=
  match tree.locate path with
  | .error error => .unreadable error
  | .ok place =>
      match tree.nodeAt place with
      | .error error => .unreadable error
      | .ok .directory => .unreadable .isDirectory
      | .ok (.file content) => .regular content

def put (tree : FileTree) (names : List String) (node : FileNode) : FileTree :=
  ⟨(names, node) :: tree.nodes.filter fun entry => entry.1 != names⟩

/-- Adds a node at a path of plain names, and the directories that lead to it. -/
def add (tree : FileTree) (path : String) (node : FileNode) : FileTree :=
  let names := (pathNames path).filter fun name => name != "" && name != "."
  let parents := (List.range names.length).map fun count => (names.take count).reverse
  let missing := parents.filter fun parent => (tree.node? (.within parent)).isNone
  let grown := missing.foldl (fun tree parent => tree.put parent .directory) tree
  grown.put names.reverse node

/-- Puts a text into the file at a path, which is made if its directory is there. A path that ends
in a slash names a directory, even when there is none. -/
def write (tree : FileTree) (path text : String) : Except FileError FileTree := do
  checkPath path
  let names := pathNames path
  match names.reverse.dropWhile (· == "") with
  | [] => throw .isDirectory
  | last :: outer =>
      let folder ← tree.follow (startOf path) outer.reverse
      tree.expectDirectory folder
      if last = "." ∨ last = ".." ∨ names.getLast? = some "" then throw .isDirectory
      if isTooLong last then throw .nameTooLong
      match folder with
      | .above => return tree
      | .within parents =>
          match tree.node? (.within (last :: parents)) with
          | some .directory => throw .isDirectory
          | _ => return tree.put (last :: parents) (.file (.ok text))

end FileTree

end LineTemplate
