import QueryTariff.Text.Quoted
import QueryTariff.Text.Utf8

/-!
Files as values: trees of directories, and what can be found under a path.
-/

namespace QueryTariff

/-- A file with its bytes, or a directory with what is in it. -/
inductive FileNode where
  | file (bytes : List UInt8)
  | directory (entries : List (String × FileNode))

/-- Why nothing stands under a path. -/
inductive PathFault where
  | missing
  | notADirectory
  | nameTooLong
deriving DecidableEq, Repr

def PathFault.message : PathFault → String
  | missing => "No such file or directory (os error 2)"
  | notADirectory => "Not a directory (os error 20)"
  | nameTooLong => "File name too long (os error 36)"

/-- What stands under each path. -/
abbrev Disk := String → Except PathFault FileNode

namespace Path

/-- The steps of a path. A dot counts only as the first step, and a root as a step of its own. -/
def components (path : String) : List String :=
  let parts := path.splitOn "/"
  let steps := parts.filter fun s => s ≠ "" && s ≠ "."
  match parts with
  | "" :: _ :: _ => "/" :: steps
  | "." :: _ => "." :: steps
  | _ => steps

/-- No entry of a directory has a name of more bytes than this. -/
def maxNameSize : Nat := 255

/-- No path of more bytes than this is followed. -/
def maxSize : Nat := 4095

/-- How a name is reported that a directory does not have. -/
def absence (name : String) : PathFault :=
  if maxNameSize < name.utf8ByteSize then .nameTooLong else .missing

/-- Two paths are the same if their steps are. -/
def same (p q : String) : Bool := components p = components q

/-- The path of an entry of a directory. -/
def join (directory name : String) : String :=
  if directory.isEmpty then name
  else if directory.endsWith "/" then directory ++ name
  else directory ++ "/" ++ name

/-- The last step of a path, unless it leads upwards. -/
def fileName? (path : String) : Option String :=
  match (components path).getLast? with
  | none => none
  | some s => if s = ".." || s = "." || s = "/" then none else some s

/-- What follows the last dot of a file's name, unless that dot is its first character. -/
def extension? (path : String) : Option String := do
  let name ← fileName? path
  let tail := (name.toList.reverse.takeWhile (· ≠ '.')).reverse
  let stem := name.length - tail.length
  if stem ≤ 1 then none else some (String.ofList tail)

end Path

namespace FileNode

/-- Follows the steps of a path. `above` holds the directories passed on the way, the innermost
first; a step may go back to those, but a file has nothing below it, not even itself. -/
def follow (above : List FileNode) (here : FileNode) : List String → Except PathFault FileNode
  | [] => .ok here
  | s :: steps =>
    match here with
    | file _ => .error .notADirectory
    | directory entries =>
      if s = "" || s = "." then follow above here steps
      else if s = ".." then
        match above with
        | [] => .error .missing
        | up :: above => follow above up steps
      else
        match entries.lookup s with
        | none => .error (Path.absence s)
        | some x => follow (here :: above) x steps

/-- What a relative path leads to from a directory. -/
def resolve (root : FileNode) (path : String) : Except PathFault FileNode :=
  if Path.maxSize < path.utf8ByteSize then .error .nameTooLong
  else if path.isEmpty || path.startsWith "/" then .error .missing
  else follow [] root (path.splitOn "/")

/-- Puts a node under a row of names, with the directories that are missing. -/
def place (node : FileNode) : List String → List (String × FileNode) → List (String × FileNode)
  | [], entries => entries
  | [name], entries =>
    if (entries.lookup name).isSome then
      match node with
      | directory _ => entries
      | file _ => entries.map fun e => if e.1 = name then (name, node) else e
    else entries ++ [(name, node)]
  | name :: names, entries =>
    match entries.lookup name with
    | some (directory inner) =>
      entries.map fun e => if e.1 = name then (name, directory (place node names inner)) else e
    | some (file _) => entries
    | none => entries ++ [(name, directory (place node names []))]

/-- The tree with the given nodes under their paths. -/
def ofPaths (nodes : List (String × FileNode)) : FileNode :=
  directory (nodes.foldl (fun entries e =>
    place e.2 ((Path.components e.1).filter (· ≠ ".")) entries) [])

mutual

/-- The node and all nodes below it, each with its path. -/
def withPaths (path : String) : FileNode → List (String × FileNode)
  | file bytes => [(path, file bytes)]
  | directory entries => (path, directory entries) :: entriesWithPaths path entries

def entriesWithPaths (path : String) : List (String × FileNode) → List (String × FileNode)
  | [] => []
  | (name, node) :: rest => withPaths (Path.join path name) node ++ entriesWithPaths path rest

end

end FileNode

/-- Why a path gives no text. -/
inductive ReadFault where
  | notAFile (path : String)
  | notUtf8 (path : String) (bytes : List UInt8) (fault : Utf8.Fault)

namespace ReadFault

def message : ReadFault → String
  | notAFile path => "Path is not a file: " ++ Text.quoted path
  | notUtf8 path _ fault =>
    "File at " ++ Text.quoted path ++ " is not valid UTF-8: " ++ fault.message

/-- Whether two faults are alike; paths are compared by their steps. -/
def same : ReadFault → ReadFault → Bool
  | notAFile p, notAFile q => Path.same p q
  | notUtf8 p a f, notUtf8 q b g => Path.same p q && a = b && f = g
  | _, _ => false

end ReadFault

/-- The text in a file. -/
def Disk.readText (disk : Disk) (path : String) : Except ReadFault String :=
  match disk path with
  | .ok (.file bytes) =>
    match Utf8.decode bytes with
    | .ok cs => .ok (String.ofList cs)
    | .error f => .error (.notUtf8 path bytes f)
  | _ => .error (.notAFile path)

end QueryTariff
