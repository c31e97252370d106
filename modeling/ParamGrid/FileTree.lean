import ParamGrid.Error

set_option autoImplicit false

namespace ParamGrid

inductive FileTree where
  | file (content : ByteArray)
  | directory (entries : List (String × FileTree))

namespace FileTree

def empty : FileTree := .directory []

def pathParts (path : String) : List String :=
  path.splitOn "/"

def lookup? (name : String) : List (String × FileTree) → Option FileTree
  | [] => none
  | (other, t) :: rest => if other = name then some t else lookup? name rest

def setEntry (name : String) (t : FileTree) : List (String × FileTree) → List (String × FileTree)
  | [] => [(name, t)]
  | (other, old) :: rest =>
    if other = name then (name, t) :: rest else (other, old) :: setEntry name t rest

def put (content : FileTree) : List String → FileTree → FileTree
  | [], _ => content
  | name :: rest, t =>
    let entries := match t with
      | .directory entries => entries
      | .file _ => []
    let inner := (lookup? name entries).getD empty
    .directory (setEntry name (put content rest inner) entries)

-- Goes on from a tree to the one below it that the parts of a path name. `above` are the
-- directories on the way, the innermost first.
def walk (above : List FileTree) : List String → FileTree → Except ReadFault FileTree
  | [], t => .ok t
  | _ :: _, .file _ => .error .notDirectory
  | name :: rest, .directory entries =>
    if name = "" ∨ name = "." then walk above rest (.directory entries)
    else if name = ".." then
      match above with
      | parent :: above => walk above rest parent
      | [] => walk [] rest empty
    else
      match lookup? name entries with
      | some t => walk (.directory entries :: above) rest t
      | none => .error .notFound

def find (root : FileTree) (path : String) : Except ReadFault FileTree :=
  if path = "" then .error .notFound
  else if path.startsWith "/" then walk [] (pathParts path) empty
  else walk [] (pathParts path) root

def readText : FileTree → Except ReadFault String
  | directory _ => .error .isDirectory
  | file content =>
    match String.fromUTF8? content with
    | some text => .ok text
    | none => .error .notText

def extension? (name : String) : Option String :=
  let reversed := name.toList.reverse
  match reversed.dropWhile (· ≠ '.') with
  | '.' :: _ :: _ => some (String.ofList (reversed.takeWhile (· ≠ '.')).reverse)
  | _ => none

mutual

def files : FileTree → List (List String × ByteArray)
  | .file content => [([], content)]
  | .directory entries => filesOfEntries entries

def filesOfEntries : List (String × FileTree) → List (List String × ByteArray)
  | [] => []
  | (name, t) :: rest =>
    (files t).map (fun (path, content) => (name :: path, content)) ++ filesOfEntries rest

end

def join (path name : String) : String :=
  if path.endsWith "/" then path ++ name else path ++ "/" ++ name

end FileTree

end ParamGrid
