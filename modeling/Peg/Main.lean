import Peg.CommandLine.Session

/-! The command line program. It writes the log in the plain layout. -/
namespace Peg.CommandLine

/-- All bytes of a stream, after those that were read already. -/
partial def readAll (stream : IO.FS.Stream) (read : ByteArray) : IO ByteArray := do
  let chunk ← stream.read 65536
  if chunk.isEmpty then return read else readAll stream (read ++ chunk)

end Peg.CommandLine

open Peg.CommandLine in
def main (args : List String) : IO UInt32 := do
  let arguments := args.map String.toList
  let stdin ← if readsInput arguments then readAll (← IO.getStdin) ByteArray.empty
    else pure ByteArray.empty
  let setting ← IO.getEnv "RUST_LOG"
  let report := command arguments stdin (setting.map String.toList)
  let out ← IO.getStdout
  let err ← IO.getStderr
  err.putStr (String.ofList (report.stderr .plain))
  out.putStr (String.ofList report.stdout)
  return report.exit.toUInt32
