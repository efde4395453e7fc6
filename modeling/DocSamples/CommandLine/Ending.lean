import DocSamples.Console
import DocSamples.Run
import DocSamples.Settings.Fault
import DocSamples.Text.ShellWords

namespace DocSamples

/-! # Endings

How a command ends: its exit code, what it has shown, and what it leaves behind.
-/

inductive CommandFault where
  | settings (fault : SettingsFault)
  /-- The words of a compiler's command cannot be told apart. -/
  | words (fault : Text.WordFault)
  | run (fault : RunFault)
deriving DecidableEq, Repr

namespace CommandFault

def message : CommandFault → String
  | .settings fault => fault.message
  | .words fault => fault.message
  | .run fault => fault.message

def isConfiguration : CommandFault → Bool
  | .settings fault => fault.isConfiguration
  | _ => false

end CommandFault

structure Ending where
  exitCode : Int
  shown : List Showing := []
  /-- A fault that the command has not told of. -/
  escaped : Option CommandFault := none
  events : List Event := []
  tree : Tree

namespace Ending

def usageCode : Int := 2

/-- An ending without anything to show. -/
def silent (exitCode : Int) (tree : Tree) : Ending := { exitCode, tree }

/-- The end of a command that lets a fault pass. -/
def ofFault (fault : CommandFault) (tree : Tree) : Ending :=
  { exitCode := RunResult.failureCode, escaped := some fault, tree }

/-- The end of a command that tells of wrong settings. -/
def ofConfigurationFault (fault : CommandFault) (tree : Tree) : Ending :=
  { exitCode := RunResult.failureCode
    shown := [.fault "Configuration Error" fault.message]
    tree }

/-- An ending after what has been shown and has happened before it. -/
def after (shown : List Showing) (events : List Event) (ending : Ending) : Ending :=
  { ending with shown := shown ++ ending.shown, events := events ++ ending.events }

end Ending

end DocSamples
