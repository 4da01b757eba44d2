import FeedReader.Entry.Basic

/-!
# Resources

What can be listed, and how each listing is shown.
-/

namespace FeedReader

inductive Resource where
  | timeline
  | notifications
  | comments (postId : String)
  | users (search : Option String)
  | followers (username : String)
  | followees (username : String)
  deriving DecidableEq, Repr

namespace Resource

def searched : Resource → Option String
  | .users (some search) => if search = "" then none else some search
  | _ => none

def kind : Resource → EntryKind
  | .timeline => .post
  | .notifications => .notification
  | .comments _ => .comment
  | .users _ | .followers _ | .followees _ => .user

def layout : Resource → Layout
  | .comments _ => .reverse
  | _ => .forward

def isLive : Resource → Bool
  | .timeline | .notifications | .comments _ => true
  | _ => false

def title (r : Resource) : String :=
  match r with
  | .timeline => "Home"
  | .notifications => "Notifications"
  | .comments postId => "Comments on " ++ postId
  | .users _ =>
      match r.searched with
      | some search => "Users matching \"" ++ search ++ "\""
      | none => "Users"
  | .followers username => "Followers of @" ++ username
  | .followees username => "@" ++ username ++ " follows"

def noun (r : Resource) : String × String :=
  match r.kind with
  | .post => ("post", "posts")
  | .comment => ("comment", "comments")
  | .notification => ("notification", "notifications")
  | .user => ("user", "users")

def emptyText (r : Resource) : String :=
  match r.kind with
  | .post => "No posts yet. Follow someone to fill your timeline."
  | .comment => "No comments yet."
  | .notification => "You're all caught up."
  | .user => "No users found."

end Resource

end FeedReader
