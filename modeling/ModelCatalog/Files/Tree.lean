import ModelCatalog.Files.Basic

/-!
A tree of files in memory, and the files of a computation that carries it along.
-/

namespace ModelCatalog

inductive FileNode where
  | directory
  | text (content : String)
  | store (file : StoreFile)
  deriving DecidableEq, Repr

structure FileTree where
  /-- Everything below the root, under its names from the root on. -/
  nodes : List (List String × FileNode) := []
  workingDirectory : List String := []
  deriving Repr

namespace FileTree

def node? (tree : FileTree) (place : List String) : Option FileNode :=
  if place.isEmpty then some .directory else tree.nodes.lookup place

def put (tree : FileTree) (place : List String) (node : FileNode) : FileTree :=
  { tree with nodes := (place, node) :: tree.nodes.filter fun entry => entry.1 != place }

def greatestName : Nat := 255

def greatestPath : Nat := 4095

def enter (tree : FileTree) (place : List String) (name : String) :
    Except FileFault (List String) :=
  match tree.node? place with
  | none => .error .missing
  | some .directory =>
    if name.isEmpty || name == "." then .ok place
    else if name == ".." then .ok place.dropLast
    else if greatestName < name.utf8ByteSize then .error .tooLong
    else .ok (place ++ [name])
  | some _ => .error .notDirectory

def placeOf (tree : FileTree) (path : String) : Except FileFault (List String) :=
  if path.isEmpty then .error .missing
  else if path.toList.contains (Char.ofNat 0) then .error .nul
  else if greatestPath < path.utf8ByteSize then .error .tooLong
  else
    (Path.names path).foldlM tree.enter
      (if Path.isAbsolute path then [] else tree.workingDirectory)

def nodeOf (tree : FileTree) (path : String) : Except FileFault FileNode := do
  match tree.node? (← tree.placeOf path) with
  | some node => return node
  | none => throw .missing

def kindOf : FileNode → FileKind
  | .directory => .directory
  | _ => .file

def readText (tree : FileTree) (path : String) : Except FileFault String := do
  match ← tree.nodeOf path with
  | .directory => throw .isDirectory
  | .text content => return content
  | .store _ => throw .notText

def readStore? (tree : FileTree) (path : String) : Option StoreFile :=
  match tree.nodeOf path with
  | .ok (.store file) => some file
  | .ok (.text content) => if content.isEmpty then some { version := "" } else none
  | _ => none

def withoutSlashes (path : String) : String :=
  let kept := (path.toList.reverse.dropWhile (· == '/')).reverse
  if kept.isEmpty then path else String.ofList kept

def createDirectory (tree : FileTree) (path : String) : Except FileFault FileTree := do
  let place ← tree.placeOf (withoutSlashes path)
  match tree.node? place with
  | some _ => throw .occupied
  | none => return tree.put place .directory

/-- A file takes the place of another file only, and not under a name that means a directory. -/
def replaceText (tree : FileTree) (path text : String) : Except FileFault FileTree := do
  match (Path.names path).getLast? with
  | some "" => throw .notDirectory
  | some "." => throw .busy
  | some ".." => throw .busy
  | _ =>
    let place ← tree.placeOf path
    match tree.node? place with
    | some .directory => throw .isDirectory
    | _ => return tree.put place (.text text)

def writeStore (tree : FileTree) (path : String) (file : StoreFile) : FileTree :=
  match tree.placeOf path with
  | .ok place => tree.put place (.store file)
  | .error _ => tree

def attempt (change : FileTree → Except FileFault FileTree) :
    StateM FileTree (Except FileFault Unit) := do
  match change (← get) with
  | .ok tree =>
    set tree
    return .ok ()
  | .error fault => return .error fault

def files : Files (StateM FileTree) where
  kind? path := return ((← get).nodeOf path).toOption.map kindOf
  canonical? path := do
    let tree ← get
    match tree.placeOf path with
    | .ok place => return if (tree.node? place).isSome then some (Path.ofNames place) else none
    | .error _ => return none
  readText path := return (← get).readText path
  createDirectory path := attempt fun tree => tree.createDirectory path
  replaceText path text := attempt fun tree => tree.replaceText path text
  readStore? path := return (← get).readStore? path
  writeStore path file := modify fun tree => tree.writeStore path file
  storeBytes _ := return 0

end FileTree

end ModelCatalog
