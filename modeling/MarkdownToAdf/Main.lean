import MarkdownToAdf.Cli.Run

set_option autoImplicit false

/-!
# The program

Fetches what a run may look at, runs, and delivers what the run leaves behind.
-/
namespace MarkdownToAdf
open Cli Files

partial def readStream (stream : IO.FS.Stream) (seen : ByteArray) : IO ByteArray := do
  let more ← stream.read 65536
  if more.isEmpty then return seen else readStream stream (seen ++ more)

def waypoints (place : Place) : List String → List Place
  | [] => [place]
  | p :: rest => place :: waypoints (if p = ".." then place.dropLast else place ++ [p]) rest

/-- Adds what is at a place. What is there but cannot be read is a folder or a closed file. -/
def fetch {here : Place} (d : Directory here) (place : Place) : IO (Directory here) := do
  try
    let bytes ← IO.FS.readBinFile place.path
    return { d with files := put place bytes.toList d.files }
  catch
    | .noFileOrDirectory _ _ _ => return d
    | _ =>
      if ← ((← IO.currentDir) / place.path).isDir then
        return { d with traits := (place, .folder) :: d.traits }
      else
        let refusal := Trait.refuses .read "Permission denied (os error 13)"
        return { d with files := put place [] d.files, traits := (place, refusal) :: d.traits }

def lookedAt (here : Place) (args : List String) : List String :=
  match Request.ofArguments (keptArguments args) with
  | .run c =>
    let config := absolute here (c.config.getD projectFile)
    config :: (Config.withToml? config).toList ++ (inputFile? c.input).toList ++ c.output.toList
  | _ => []

def readsStdin (args : List String) : Bool :=
  match Request.ofArguments (keptArguments args) with
  | .run c => !c.listFormats && (inputFile? c.input).isNone
  | _ => false

def store {here : Place} (before after : Directory here) : IO Unit :=
  for (place, bytes) in after.files do
    if before.files.lookup place != some bytes then
      IO.FS.writeBinFile place.path ⟨bytes.toArray⟩

end MarkdownToAdf

open MarkdownToAdf Files in
def main (args : List String) : IO UInt32 := do
  let here := parts (← IO.currentDir).toString
  let places := (lookedAt here args).flatMap fun path =>
    waypoints (if isAbsolute path then [] else here) (parts path)
  let d ← places.foldlM fetch (⟨[], []⟩ : Directory here)
  let stdin ← if readsStdin args then readStream (← IO.getStdin) .empty else pure .empty
  let outcome := Cli.run args stdin.toList d
  try
    store d outcome.directory
  catch e =>
    IO.eprintln ("Error writing file: " ++ toString e)
    return 1
  try
    IO.print outcome.stdout
    IO.eprint outcome.stderr
    return outcome.code.toUInt32
  catch e =>
    IO.eprintln ("failed printing to stdout: " ++ toString e)
    return 101
