import Daihon.Command.Run

/-!
# The program

Runs a command line: gathers the files and variables that it can ask for, and prints what it comes to.
-/

namespace Daihon

/-- The bytes of a file, if it can be read. -/
def contentOf (place : String) : IO (Option (List UInt8)) := do
  try
    return some (← IO.FS.readBinFile place).toList
  catch _ =>
    return none

/-- Puts the file at a place of the real file tree at a path, if it can be read. -/
def gatherFile (s : Surroundings) (place : String) (path : Path) : IO Surroundings := do
  match ← contentOf place with
  | some bytes =>
    return ((s.makeParents path).bind fun s => s.putFile path bytes).toOption.getD s
  | none => return s

/-- The texts in an argument that may name a file: all of it, and what is attached to an option. -/
def fileNames (arg : String) : List String :=
  arg :: match arg.toList with
    | '-' :: '-' :: s => (Command.attachedValue? s).toList
    | '-' :: _ :: s => [.ofList s]
    | _ => []

/-- The names of files in the working directory that are read unasked. -/
def usualNames : List String :=
  SourceOptions.usual.files ++ Loaded.workFiles

/-- The files that a command line can ask for. -/
def gatherFiles (s : Surroundings) (args : List String) : IO Surroundings := do
  let mut s := s
  for name in usualNames ++ args.flatMap fileNames do
    s ← gatherFile s name (.ofText name)
  if let some home ← IO.getEnv homeVariable then
    for parts in Loaded.homeFiles do
      s ← gatherFile s ("/".intercalate (home :: parts)) ⟨"/", homeDirectory ++ parts⟩
  return s

def gatherVariables (s : Surroundings) : IO Surroundings := do
  let mut environment := s.environment
  for field in Field.all do
    let name := Text.upper (SourceOptions.usual.start ++ field.name)
    if let some value ← IO.getEnv name then
      environment := environment ++ [(name, value)]
  return { s with environment }

end Daihon

/-- Runs the command line and answers its exit code. -/
def main (args : List String) : IO UInt32 := do
  let s ← Daihon.gatherFiles .empty args
  let s ← Daihon.gatherVariables s
  let result := Daihon.Command.launch s args
  IO.print result.output
  if let some failure := result.uncaught then
    IO.eprintln (failure.name ++ ": " ++ failure.text)
  return UInt32.ofNat result.exitCode
