import FeedReader.Feed.Basic
import FeedReader.Text.CharClass
import FeedReader.Text.Quoted
import FeedReader.Url.Basic

/-!
# Settings
-/

namespace FeedReader

def maxPageSize : Nat := 100

/-- Key bindings are in the order of the action names. -/
structure Settings where
  apiUrl : String := "http://localhost:3000"
  apiToken : Option String := none
  pageSize : Nat := 10
  trigger : TriggerMode := .sentinel
  liveUpdates : Bool := true
  keybindings : List (String × String) := []
  deriving DecidableEq, Repr

/-! ## Errors -/

inductive ReadFault where
  | isDirectory
  | throughFile
  | notText
  | other (reason : String)
  deriving DecidableEq, Repr

def ReadFault.message : ReadFault → String
  | .isDirectory => "Is a directory (os error 21)"
  | .throughFile => "Not a directory (os error 20)"
  | .notText => "stream did not contain valid UTF-8"
  | .other reason => reason

inductive InvalidSetting where
  | pageSize (got : Nat)
  | address (text : String) (fault : Url.UrlError)
  | scheme (got : String)
  deriving DecidableEq, Repr

def InvalidSetting.message : InvalidSetting → String
  | .pageSize got => s!"page_size must be between 1 and {maxPageSize}, got {got}"
  | .address text fault => s!"api_url '{text}': {fault.message}"
  | .scheme got => s!"api_url must be http or https, got '{got}'"

inductive SettingsError where
  | unreadable (fault : ReadFault)
  | tooLarge (size : Nat)
  /-- The text is no document, or a value in it has the wrong type. -/
  | malformed
  | invalid (setting : InvalidSetting)
  deriving DecidableEq, Repr

def maxSettingsSize : Nat := 1048576

def SettingsError.message : SettingsError → String
  | .unreadable fault => s!"Failed to read config file: {fault.message}"
  | .tooLarge size =>
      s!"Config file too large: Config file is {size} bytes (max {maxSettingsSize} bytes)"
  | .malformed => "Invalid TOML in config file:"
  | .invalid setting => s!"Invalid config value: {setting.message}"

/-! ## Checks -/

namespace Settings

/-- The page size is checked first. -/
def validate (settings : Settings) : Except InvalidSetting Unit := do
  if settings.pageSize = 0 ∨ maxPageSize < settings.pageSize then
    throw (.pageSize settings.pageSize)
  match Url.parse settings.apiUrl with
  | .error fault => throw (.address settings.apiUrl fault)
  | .ok url =>
      let scheme := String.ofList url.scheme
      if scheme ≠ "http" ∧ scheme ≠ "https" then throw (.scheme scheme)

/-- The access token: the environment's, else the one in the settings.  Blank ones do not count. -/
def token (settings : Settings) (environment : Option String) : Option String :=
  let present := Option.filter fun text => !Text.isBlankText text
  (present environment).or (present settings.apiToken)

/-! ## Description -/

def triggerName : TriggerMode → String
  | .button => "Button"
  | .sentinel => "Sentinel"

def quotedPairs (pairs : List (String × String)) : String :=
  ", ".intercalate (pairs.map fun (name, value) => Text.quoted name ++ ": " ++ Text.quoted value)

def describe (settings : Settings) : String :=
  "Config \x7b api_url: " ++ Text.quoted settings.apiUrl ++
    ", api_token: " ++ Text.quotedOption (settings.apiToken.map fun _ => "[REDACTED]") ++
    ", page_size: " ++ toString settings.pageSize ++
    ", load_trigger: " ++ triggerName settings.trigger ++
    ", live_updates: " ++ toString settings.liveUpdates ++
    ", keybindings: \x7b" ++ quotedPairs settings.keybindings ++ "\x7d \x7d"

end Settings

end FeedReader
