import FeedReader.CommandLine.Arguments
import FeedReader.Session.Events
import FeedReader.Settings.Reading

/-!
# From the command line to a session

The settings are read and overridden, the first page is fetched, and a session
is set up with it.  Each step can fail, and says so as a chain of causes.
-/

namespace FeedReader.CommandLine

/-! ## Surroundings -/

structure Surroundings where
  home : Option String
  token : Option String
  fileAt : String → Settings.FileState
  network : Web.Network

def below (folder path : String) : String :=
  if folder.isEmpty || folder.endsWith "/" then folder ++ path else folder ++ "/" ++ path

def settingsFolder (home : String) : String := below home ".config/murmur"

def settingsPath (options : Options) (home : String) : String :=
  options.config.getD (below (settingsFolder home) "config.toml")

def logPath (home : String) : String := below (settingsFolder home) "murmur.log"

/-! ## Failures -/

inductive LaunchError where
  | noHome
  | settings (path : String) (fault : SettingsError)
  | invalid (setting : InvalidSetting)
  | badServer (fault : Url.UrlError)
  | load (title : String) (fault : Web.FetchError)
  | feed (fault : FeedError)
  | noTerminal
  deriving DecidableEq, Repr

namespace LaunchError

def settingsCause : SettingsError → List String
  | .unreadable fault => [fault.message]
  | _ => []

def chain : LaunchError → List String
  | .noHome => ["HOME environment variable not set", "environment variable not found"]
  | .settings path fault =>
      [s!"Failed to load config '{path}'", fault.message] ++ settingsCause fault
  | .invalid setting => ["Invalid configuration", (SettingsError.invalid setting).message]
  | .badServer fault =>
      ["Failed to create API client", (Web.FetchError.badUrl fault).message, fault.message]
  | .load title fault => [s!"Failed to load {title}", fault.message]
  | .feed fault => ["Failed to create application", fault.message]
  | .noTerminal => ["No such device or address (os error 6)"]

def report (e : LaunchError) : String :=
  match e.chain with
  | [] => "Error:"
  | [what] => "Error: " ++ what
  | [what, cause] => "Error: " ++ what ++ "\n\nCaused by:\n    " ++ cause
  | what :: causes =>
      "Error: " ++ what ++ "\n\nCaused by:" ++
        String.join (causes.zipIdx.map fun (cause, i) => s!"\n    {i}: {cause}")

end LaunchError

/-! ## Steps -/

def override (options : Options) (settings : Settings) : Settings :=
  { settings with
    apiUrl := options.apiUrl.getD settings.apiUrl
    pageSize := options.pageSize.getD settings.pageSize
    liveUpdates := settings.liveUpdates && !options.noLive }

def readSettings (options : Options) (path : String) (file : Settings.FileState) :
    Except LaunchError Settings := do
  let settings ← (Settings.load file).mapError (.settings path)
  let settings := override options settings
  settings.validate.mapError .invalid
  return settings

/-- A session with its first page; a short page may make it load more at once. -/
def openSession (resource : Resource) (settings : Settings) (first : Page Entry) :
    Except LaunchError Session := do
  let session ← (Session.start resource (.page first) settings).mapError .feed
  let session :=
    if settings.liveUpdates && resource.isLive then
      { session with feed := session.feed.attach 0, live := .connecting }
    else session
  return if session.feed.sentinelVisible then session.startLoad.2 else session

/-! ## The launch -/

structure Launch where
  /-- The folder for settings and the log file in it have been made. -/
  prepared : Bool := false
  output : String := ""
  network : Web.Network
  result : Except LaunchError Session

def announcement (resource : Resource) : String := s!"Loading {resource.title}...\n"

def load (server : Server) (settings : Settings) (resource : Resource) (net : Web.Network) :
    Except LaunchError Session × Web.Network :=
  let query := PageQuery.older none settings.pageSize
  let (page, net) := Web.fetchPage server Web.defaultBackoff resource query net
  ((page.mapError (.load resource.title)).bind (openSession resource settings), net)

def launch (around : Surroundings) (options : Options) : Launch :=
  let net := around.network
  match around.home with
  | none => { network := net, result := .error .noHome }
  | some home =>
      let path := settingsPath options home
      match readSettings options path (around.fileAt path) with
      | .error e => { prepared := true, network := net, result := .error e }
      | .ok settings =>
          match Server.connect settings.apiUrl (settings.token around.token) with
          | .error fault =>
              { prepared := true, network := net, result := .error (.badServer fault) }
          | .ok server =>
              let (result, net) := load server settings options.resource net
              { prepared := true, output := announcement options.resource, network := net, result }

end FeedReader.CommandLine
