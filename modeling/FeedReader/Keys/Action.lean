import FeedReader.Keys.Key

/-!
# What a key can do
-/

namespace FeedReader.Keys

inductive Action where
  | quit
  | next
  | prev
  | first
  | last
  | flush
  | loadMore
  | remove
  | resync
  | showHelp
  | back
  deriving DecidableEq, Repr

namespace Action

def all : List Action :=
  [.quit, .next, .prev, .first, .last, .flush, .loadMore, .remove, .resync, .showHelp, .back]

def describe : Action → String
  | .quit => "Quit application"
  | .next => "Focus next item"
  | .prev => "Focus previous item"
  | .first => "Jump to first item"
  | .last => "Jump to last item"
  | .flush => "Show new items"
  | .loadMore => "Load older items"
  | .remove => "Remove item from feed"
  | .resync => "Resync with server"
  | .showHelp => "Show help"
  | .back => "Close overlay"

def named? (name : String) : Option Action :=
  match foldName name.toList with
  | "quit" => some .quit
  | "next" | "nav_down" | "down" => some .next
  | "prev" | "previous" | "nav_up" | "up" => some .prev
  | "first" | "home" => some .first
  | "last" | "end" => some .last
  | "flush" | "show_new" | "shownew" => some .flush
  | "load_more" | "loadmore" | "more" => some .loadMore
  | "remove" | "delete" => some .remove
  | "resync" | "refresh" => some .resync
  | "show_help" | "showhelp" | "help" => some .showHelp
  | "back" => some .back
  | _ => none

end Action

end FeedReader.Keys
