import HostStatus.Service.Launch

/-!
# The command line

Launches the service with the environment of this process and the file `.env` of the working
directory. The end of standard input stands for the signal that ends it.
-/

namespace HostStatus.Main

/-- Each entry is ended by a zero byte. -/
def readEnvironment : IO Environment := do
  let bytes ← IO.FS.readBinFile "/proc/self/environ"
  pure ⟨(bytes.toList.splitOn 0).filter (· ≠ [])⟩

def readEnvironmentFile : IO (Option String) := do
  try
    let bytes ← IO.FS.readBinFile ".env"
    pure (Text.ofUtf8? bytes.toList)
  catch _ => pure none

def print (lines : List LogLine) : IO Unit := do
  let output ← IO.getStdout
  for line in lines do
    output.putStrLn line.toText
  output.flush

partial def waitForEnd (input : IO.FS.Stream) : IO Unit := do
  if (← input.getLine).isEmpty then pure () else waitForEnd input

/-- The loader has had its say of this process, and its calls are not known. -/
def runtime : Launch.Runtime where
  unloadable? _ := none
  report
    | .workers value => "no number of worker threads: " ++ Text.ofUtf8Lossy value ++ "\n"
    | .assignment name _ => "the value of " ++ name ++ " has a zero byte\n"

def run : IO UInt32 := do
  let launch := Launch.run (← readEnvironment) (← readEnvironmentFile) runtime
  print launch.opening
  if launch.exitCode = 0 then waitForEnd (← IO.getStdin)
  print launch.closing
  IO.eprint launch.error
  pure launch.exitCode.toUInt32

end HostStatus.Main

def main : IO UInt32 :=
  HostStatus.Main.run
