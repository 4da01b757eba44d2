import FeedReader.Settings.Basic
import FeedReader.Text.Utf8
import FeedReader.Toml.Document

/-!
# Reading settings

A document of settings may name any of them; the rest keep their defaults.
Names that are no setting are passed over, and can be warned about.
-/

namespace FeedReader.Settings

open FeedReader.Toml (Value Members)

def knownNames : List String :=
  ["api_url", "api_token", "page_size", "load_trigger", "live_updates", "keybindings"]

/-! ## Values -/

def asText : Value → Option String
  | .text s => some s
  | _ => none

def asCount : Value → Option Nat
  | .integer n => if 0 ≤ n then some n.toNat else none
  | _ => none

def asFlag : Value → Option Bool
  | .boolean b => some b
  | _ => none

def triggerNamed (name : String) : Option TriggerMode :=
  if name = "button" then some .button
  else if name = "sentinel" ∨ name = "auto" then some .sentinel
  else none

/-- A trigger is named by a text, or by the one member of a table that holds nothing. -/
def asTrigger : Value → Option TriggerMode
  | .text s => triggerNamed s
  | .table _ [(name, .table _ [])] | .table _ [(name, .list [])] => triggerNamed name
  | _ => none

/-- The name under which a date stands where a table is wanted. -/
def momentName : String := "$__toml_private_datetime"

def byName (a b : String × String) : Bool := a.1 ≤ b.1

def asPairs : Value → Option (List (String × String))
  | .table _ members => do
      let pairs ← members.mapM fun (name, v) => (asText v).map fun s => (name, s)
      return pairs.mergeSort byName
  | .moment s => some [(momentName, s)]
  | _ => none

/-! ## Dates written out

A table whose first name is `momentName` stands for a date, and must hold its text.
-/

def isMomentValue : Value → Bool
  | .text s => Toml.isMomentText s.toList
  | _ => false

mutual

def hasSoundDates : Value → Bool
  | .list items => itemsHaveSoundDates items
  | .table _ members => tableHasSoundDates members
  | .series tables => seriesHasSoundDates tables
  | _ => true

def itemsHaveSoundDates : List Value → Bool
  | [] => true
  | v :: items => hasSoundDates v && itemsHaveSoundDates items

def membersHaveSoundDates : Members → Bool
  | [] => true
  | (_, v) :: members => hasSoundDates v && membersHaveSoundDates members

def tableHasSoundDates : Members → Bool
  | [] => true
  | (name, v) :: members =>
      if name = momentName then isMomentValue v
      else hasSoundDates v && membersHaveSoundDates members

def seriesHasSoundDates : List Members → Bool
  | [] => true
  | members :: tables => tableHasSoundDates members && seriesHasSoundDates tables

end

/-! ## Members -/

def member {α : Type} (members : Members) (name : String) (read : Value → Option α) (value : α) :
    Option α :=
  match members.find? name with
  | some v => read v
  | none => some value

/-! ## Documents -/

def ofMembers? (members : Members) : Option Settings := do
  let defaults : Settings := {}
  return {
    apiUrl := ← member members "api_url" asText defaults.apiUrl
    apiToken := ← member members "api_token" (fun v => (asText v).map some) defaults.apiToken
    pageSize := ← member members "page_size" asCount defaults.pageSize
    trigger := ← member members "load_trigger" asTrigger defaults.trigger
    liveUpdates := ← member members "live_updates" asFlag defaults.liveUpdates
    keybindings := ← member members "keybindings" asPairs defaults.keybindings }

/-- A blank text gives the defaults. -/
def parse (text : String) : Except SettingsError Settings :=
  if Text.isBlankText text then .ok {}
  else
    match (Toml.parse? text).bind ofMembers? with
    | none => .error .malformed
    | some settings => (settings.validate.mapError .invalid).map fun () => settings

def unknownNames (text : String) : List String :=
  if Text.isBlankText text then []
  else
    match Toml.parse? text with
    | none => []
    | some members =>
        if membersHaveSoundDates members then
          ((members.map (·.1)).filter fun name => !knownNames.contains name).mergeSort
        else []

/-! ## Files -/

inductive FileState where
  | missing
  | unreadable (fault : ReadFault)
  | bytes (content : List UInt8)
  deriving DecidableEq, Repr

/-- A missing file gives the defaults.  The size is checked before the content. -/
def load : FileState → Except SettingsError Settings
  | .missing => .ok {}
  | .unreadable fault => .error (.unreadable fault)
  | .bytes content =>
      if maxSettingsSize < content.length then .error (.tooLarge content.length)
      else
        match Text.decode? content with
        | none => .error (.unreadable .notText)
        | some text => parse text

end FeedReader.Settings
