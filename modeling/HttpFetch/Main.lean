import HttpFetch.CommandLine.Program
import Std.Time.DateTime.Timestamp

/-!
# The executable

Runs the program on a recording: the octets that the server sends are the standard input, and a
second connection is refused, so one reading of the clock serves the whole run.
-/

namespace HttpFetch

/-- The variables of the environment that are set. -/
def readEnvironment : IO Environment := do
  let entries ← CommandLine.environmentNames.mapM fun name => do
    pure ((← IO.getEnv name).map fun value => (name.toList, value.toList))
  pure (entries.filterMap id)

/-- A network whose one connection delivers the standard input. -/
def readNetwork : IO Network := do
  let octets ← (← IO.getStdin).readBinToEnd
  pure (Network.ofScripts [⟨[.data octets.toList], none, none, none⟩] [])

end HttpFetch

/-- The exit code is the one that the run ends with. -/
def main (words : List String) : IO UInt32 := do
  let environment ← HttpFetch.readEnvironment
  let now := (← Std.Time.Timestamp.now).toSecondsSinceUnixEpoch.val
  let report := HttpFetch.CommandLine.run (words.map (·.toList)) environment (.still now)
    (← HttpFetch.readNetwork)
  (← IO.getStdout).write ⟨report.output.toArray⟩
  (← IO.getStderr).putStr (String.ofList report.errors)
  pure (UInt32.ofNat report.ending.code)
