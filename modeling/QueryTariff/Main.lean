import QueryTariff.Command.Run

/-!
The program itself: it reads the files that the arguments lead to, runs the command on them, and
prints what that leaves.
-/

open QueryTariff

namespace QueryTariff.Main

/-- Why nothing stands under a path: on the way to it there is a file, or a name is not there. -/
def faultAt (path : String) : IO PathFault := do
  if Path.maxSize < path.utf8ByteSize then return .nameTooLong
  let steps := path.splitOn "/"
  for (step, n) in steps.zipIdx 1 do
    let place := (← IO.currentDir) / String.intercalate "/" (steps.take n)
    if !(← place.pathExists) then return Path.absence step
    if n < steps.length && !(← place.isDir) then return .notADirectory
  return .missing

/-- What stands under a path of the real disk. -/
partial def load (path : String) : IO (Except PathFault FileNode) := do
  let place := (← IO.currentDir) / path
  if ← place.isDir then
    let mut entries : List (String × FileNode) := []
    for entry in ← place.readDir do
      match ← load (Path.join path entry.fileName) with
      | .ok node => entries := entries ++ [(entry.fileName, node)]
      | .error _ => pure ()
    return .ok (.directory entries)
  if ← place.pathExists then
    return .ok (.file (← IO.FS.readBinFile place).toList)
  return .error (← faultAt path)

/-- The files that a command starts from and those below them. -/
def loadDisk (paths : List String) : IO Disk := do
  let mut known : List (String × Except PathFault FileNode) := []
  for path in paths do
    match ← load path with
    | .ok node => known := known ++ (node.withPaths path).map fun e => (e.1, .ok e.2)
    | .error fault => known := known ++ [(path, .error fault)]
  let table := known
  return fun path => (table.lookup path).getD (.error .missing)

end QueryTariff.Main

def main (arguments : List String) : IO UInt32 := do
  let paths := match Command.ofArguments arguments with
    | .ok ⟨_, some c⟩ => c.paths
    | _ => []
  let disk ← Main.loadDisk paths
  let outcome := Command.execute disk (← IO.getEnv "LOG_LEVEL") arguments
  for r in outcome.log do
    IO.eprintln r.terminalLine
  IO.print outcome.stdout
  IO.eprint outcome.stderr
  return outcome.exitCode.toUInt32
