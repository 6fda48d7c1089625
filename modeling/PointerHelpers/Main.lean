import PointerHelpers.CommandLine.Basic

open PointerHelpers CommandLine Document Files

/-- The files that the program may write, as they are now. Their contents do not matter to it. -/
def presentFiles : IO FileSystem := do
  let mut system := FileSystem.fresh
  for entry in ← (← IO.currentDir).readDir do
    let name := entry.fileName
    if Kind.all.any (·.defaultFileName == name) then
      system :=
        if ← entry.path.isDir then system.makeDirectories ⟨name⟩ else system.writeFile ⟨name⟩ ""
  return system

def main (arguments : List String) : IO UInt32 := do
  let before ← presentFiles
  let (after, outcome) := run arguments before
  for (path, entry) in after.listing do
    if let .file content := entry then
      unless before.listing.contains (path, entry) do
        IO.FS.writeBinFile path content.bytes
  IO.print outcome.stdout
  IO.eprint outcome.stderr
  return outcome.code.toUInt32
