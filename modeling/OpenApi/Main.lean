import OpenApi.Command.Run

/-!
# The command line program

Runs the command that its arguments name on the files of the system, prints what it leaves, and ends
with its exit code.
-/
namespace OpenApi.Command

/-- The files of the system. -/
def systemFiles : Files IO where
  has path := do
    try
      let _ ← IO.FS.Handle.mk path .read
      return true
    catch _ => return false
  read path := do
    try return some (← IO.FS.readFile path)
    catch _ => return none
  write path text := do
    try
      IO.FS.writeFile path text
      return true
    catch _ => return false

end OpenApi.Command

/-- Run the program. -/
def main (args : List String) : IO UInt32 := do
  let reply ← OpenApi.Command.runArguments OpenApi.Command.systemFiles args
  IO.print reply.output
  reply.lines.forM IO.eprintln
  return reply.exitCode.toUInt32
