import FeedReader.Keys.Action

/-!
# Which key does what

A keymap records two things: the bindings in the order in which they were made,
for the help screen, and for each key what it does now.  A binding takes its key
away from whatever the key did before, but stays on record until its action is
bound anew.
-/

namespace FeedReader.Keys

/-- The help screen has keys of its own; all other keys mean the same everywhere. -/
inductive Context where
  | everywhere
  | help
  deriving DecidableEq, Repr

structure Binding where
  context : Context
  key : Key
  action : Action
  deriving DecidableEq, Repr

structure Keymap where
  /-- No two of the same context and key. -/
  inForce : List Binding := []
  /-- In the order in which they were made. -/
  recorded : List Binding := []
  deriving DecidableEq, Repr

namespace Keymap

def bind (m : Keymap) (context : Context) (key : Key) (action : Action) : Keymap :=
  let b : Binding := ⟨context, key.normalized, action⟩
  { inForce := b :: m.inForce.filter fun old => old.context ≠ b.context || old.key ≠ b.key
    recorded := m.recorded ++ [b] }

def unbind (m : Keymap) (action : Action) : Keymap :=
  { inForce := m.inForce.filter fun b => b.action ≠ action
    recorded := m.recorded.filter fun b => b.action ≠ action }

/-! ## Defaults -/

def defaultKeys : List (KeyCode × Action) :=
  [(.char 'q', .quit), (.char 'j', .next), (.down, .next), (.right, .next), (.char 'k', .prev),
    (.up, .prev), (.left, .prev), (.char 'g', .first), (.home, .first), (.char 'G', .last),
    (.endKey, .last), (.char 'n', .flush), (.char 'm', .loadMore), (.char 'x', .remove),
    (.char 'r', .resync), (.char '?', .showHelp)]

def defaultHelpKeys : List KeyCode := [.esc, .char 'q', .char '?']

def default : Keymap :=
  let everywhere : Keymap :=
    defaultKeys.foldl (fun m (code, action) => m.bind .everywhere { code } action) {}
  defaultHelpKeys.foldl (fun m code => m.bind .help { code } .back) everywhere

/-! ## Overrides -/

def contexts (m : Keymap) (action : Action) : List Context :=
  ((m.recorded.filter (·.action = action)).map Binding.context).eraseReps

/-- Bind an action to one key instead of all those that it has. -/
def rebind (m : Keymap) (action : Action) (key : Key) : Keymap :=
  (m.contexts action).foldl (fun new context => new.bind context key action) (m.unbind action)

inductive Warning where
  | unknownAction (name : String)
  | unknownKey (key name : String)
  deriving DecidableEq, Repr

def Warning.message : Warning → String
  | .unknownAction name => s!"Unknown action '{name}', ignoring"
  | .unknownKey key name => s!"Cannot parse key '{key}' for action '{name}', ignoring"

def override (m : Keymap) (name key : String) : Except Warning Keymap :=
  match Action.named? name with
  | none => .error (.unknownAction name)
  | some action =>
      match parseKey? key with
      | none => .error (.unknownKey key name)
      | some key => .ok (m.rebind action key)

/-- Apply overrides in order; those that make no sense change nothing. -/
def applyOverrides (m : Keymap) (overrides : List (String × String)) : List Warning × Keymap :=
  overrides.foldl (fun (warnings, m) (name, key) =>
    match m.override name key with
    | .ok m => (warnings, m)
    | .error warning => (warnings ++ [warning], m)) ([], m)

/-! ## Look-up -/

def inContext? (m : Keymap) (context : Context) (key : Key) : Option Action :=
  (m.inForce.find? fun b => b.context = context && b.key = key).map Binding.action

def action? (m : Keymap) (context : Context) (key : Key) : Option Action :=
  (m.inContext? context key.normalized).or (m.inContext? .everywhere key.normalized)

def keyFor? (m : Keymap) (action : Action) : Option String :=
  (m.recorded.find? fun b => b.context = .everywhere && b.action = action).map (·.key.text)

/-! ## Help -/

def keysOf (m : Keymap) (action : Action) : List String :=
  (m.recorded.filter fun b => b.context = .everywhere && b.action = action).map (·.key.text)

def boundActions (m : Keymap) : List Action :=
  ((m.recorded.filter (·.context = .everywhere)).map Binding.action).eraseDups

def helpRows (m : Keymap) : List (String × String) :=
  m.boundActions.map fun action => (" / ".intercalate (m.keysOf action), action.describe)

end Keymap

end FeedReader.Keys
