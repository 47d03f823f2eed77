import RomanTrade.Host.Basic
import RomanTrade.Settings.Document

/-!
# Settings files

Settings together with the path that they were loaded from.  Every change is written back at once;
a change that could be read stays in force even if writing it fails.
-/

namespace RomanTrade

structure SettingsFile where
  path : String
  settings : Settings := {}
  deriving DecidableEq, Repr

namespace SettingsFile

variable {m : Type → Type} [Monad m] [Host m]

def load (path : String) : m (Except Fault SettingsFile) := do
  if !(← Host.pathExists path) then return .error (.settings (.missing path))
  match ← Host.readFile path with
  | .error cause => return .error (.settings (.unreadable path cause))
  | .ok text =>
    match Settings.ofDocument text with
    | .error problem => return .error (.settings (.malformed path problem))
    | .ok settings => return .ok { path, settings }

/-- Loads the settings, or takes the defaults if nothing is there.  Nothing is written. -/
def loadOrDefault (path : String) : m (Except Fault SettingsFile) := do
  if ← Host.pathExists path then load path else return .ok { path }

def save (file : SettingsFile) : m (Except Fault Unit) := do
  match ← Host.writeFile file.path file.settings.document with
  | .error cause => return .error (.settings (.unwritable file.path cause))
  | .ok () => return .ok ()

def setKey (file : SettingsFile) (key : SettingKey) (written : String) :
    m (Except Fault Unit × SettingsFile) :=
  match file.settings.change key written with
  | .error fault => return (.error fault, file)
  | .ok settings => do
    let changed := { file with settings }
    return (← changed.save, changed)

def set (file : SettingsFile) (key written : String) :
    m (Except Fault Unit × SettingsFile) :=
  match SettingKey.ofText key with
  | .error fault => return (.error fault, file)
  | .ok key => file.setKey key written

end SettingsFile
end RomanTrade
