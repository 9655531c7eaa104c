/-!
File paths as text: names with slashes between them.
-/

namespace ModelCatalog.Path

def isAbsolute (path : String) : Bool := path.toList.head? == some '/'

def join (base inner : String) : String :=
  if isAbsolute inner || base.isEmpty then inner
  else if base.toList.getLast? == some '/' then base ++ inner
  else base ++ "/" ++ inner

/-- Drops slashes and single points from the end of a path that is written backwards, as long as
something is left of it. -/
def trimEnd : List Char → List Char
  | ['/'] => ['/']
  | ['.', '/'] => ['/']
  | '/' :: rest => trimEnd rest
  | '.' :: '/' :: rest => trimEnd rest
  | path => path

def parent? (path : String) : Option String :=
  match trimEnd path.toList.reverse with
  | [] => none
  | ['/'] => none
  | backwards => some (String.ofList (trimEnd (backwards.dropWhile (· != '/'))).reverse)

def ancestors (path : String) : List String :=
  match parent? path with
  | none => [path]
  | some outer => if outer.length < path.length then path :: ancestors outer else [path, outer]
termination_by path.length

def names (path : String) : List String := (path.toList.splitOn '/').map String.ofList

def ofNames (names : List String) : String :=
  if names.isEmpty then "/" else String.join (names.map fun name => "/" ++ name)

/-- The names without detours: a name of no length or a single point stays where it is, and two
points go back, whatever there is. -/
def straightened (names : List String) : List String :=
  names.foldl (fun before name =>
    if name.isEmpty || name == "." then before
    else if name == ".." then before.dropLast
    else before ++ [name]) []

def full (base path : String) : String :=
  ofNames (straightened ((if isAbsolute path then [] else names base) ++ names path))

end ModelCatalog.Path
