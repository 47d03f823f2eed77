import RomanTrade.Dialogue
import RomanTrade.Settings.File

/-!
# The application

A dialogue on a host: the prompt is shown before each line, the messages that a line leads to go
through the journal, and a banner with the settings opens the session.
-/

namespace RomanTrade

structure Application where
  settingsFile : SettingsFile
  logsDirectory : String
  dialogue : Dialogue
  journal : Journal
  /-- Whether the opening has been shown, or passed over because the banner is off. -/
  opened : Bool := false
  deriving DecidableEq

namespace Application

def ofSettings (settingsFile : SettingsFile) (logsDirectory : String) : Application :=
  let settings := settingsFile.settings
  { settingsFile
    logsDirectory
    dialogue := { interpreter := { policy := settings.unitPricePolicy.value } }
    journal := (({} : Journal).setDirectory logsDirectory).setEnabled settings.fileLogging.value }

def openingLines (app : Application) : List String :=
  ["",
    "Teach symbols with 'glob is I', prices with 'glob glob Silver is 34 Credits'.",
    "Ask 'how much is glob glob ?' or 'how many Credits is glob Silver ?'.",
    "Type 'exit' to leave.",
    "",
    s!"Config path: {app.settingsFile.path}"] ++
  app.settingsFile.settings.rows.map (fun (key, _, value) => s!"  {key} = {value}") ++
  [s!"Logs path: {app.journal.directory}", ""]

/-- What opens a session: the banner, hints, the settings and where they are. -/
def opening (app : Application) : String :=
  Screen.banner ++ String.join (app.openingLines.map (· ++ "\n"))

def beforeLine (app : Application) : String :=
  if !app.opened && app.settingsFile.settings.showBanner.value then
    app.opening ++ Screen.prompt "> "
  else Screen.prompt "> "

variable {m : Type → Type} [Monad m] [Host m]

def start (settingsPath logsDirectory : String) : m (Except Fault Application) := do
  match ← SettingsFile.loadOrDefault settingsPath with
  | .error fault => return .error fault
  | .ok settingsFile => return .ok (ofSettings settingsFile logsDirectory)

def render (app : Application) : m Application := do
  Host.write .out app.beforeLine
  return { app with opened := true }

def handle (app : Application) (input : String) : m (Signal × Application) := do
  Host.write .out (Screen.paddingLine ++ Screen.resetStyle)
  let heard := app.dialogue.hear input
  let journal ← app.journal.recordAll heard.messages
  return (heard.signal, { app with dialogue := heard.dialogue, journal })

def flow : LineFlow (StateT Application m) where
  render := fun app => do return (.ok (), ← app.render)
  handle := fun input app => app.handle input

def runSession (app : Application) (reads : List ReadResult) : m (Ending × Application) :=
  (flow.run reads).run app

end Application
end RomanTrade
