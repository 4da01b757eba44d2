import FeedReader.Listing.Page
import FeedReader.Time.Calendar

/-!
# Entries of the listings

Posts, comments, notifications and user profiles, as far as they are shown.
Each is identified by the id that the server gave it.
-/

namespace FeedReader

open Time (Instant)

structure Author where
  username : String
  avatarUrl : Option String := none
  deriving DecidableEq, Repr

structure Post where
  id : String
  content : String := ""
  author : Option Author := none
  nsfw : Bool := false
  spoilerOf : Option String := none
  reactions : Nat := 0
  comments : Nat := 0
  createdAt : Instant
  deriving DecidableEq, Repr

structure Comment where
  id : String
  postId : Option String := none
  content : String := ""
  author : Option Author := none
  reactions : Nat := 0
  createdAt : Instant
  deriving DecidableEq, Repr

/-- `event` is what happened: "follow", "comment", "post_mention", "comment_mention" or else. -/
structure Notification where
  id : String
  actors : List String := []
  event : String
  postId : Option String := none
  read : Bool := false
  issuedAt : Instant
  deriving DecidableEq, Repr

structure Profile where
  id : String
  username : String
  followers : Nat := 0
  followees : Nat := 0
  /-- The reader follows this user. -/
  following : Bool := false
  /-- This user follows the reader. -/
  followsBack : Bool := false
  deriving DecidableEq, Repr

def Author.shown (author : Option Author) : String :=
  match author with
  | none => "unknown"
  | some author => author.username

namespace Notification

def actorSummary (n : Notification) : String :=
  match n.actors with
  | [] => "someone"
  | [one] => one
  | [first, second] => first ++ " and " ++ second
  | first :: others => s!"{first} and {others.length} others"

def describe (n : Notification) : String :=
  if n.event = "follow" then "followed you"
  else if n.event = "comment" then "commented on a post"
  else if n.event = "post_mention" then "mentioned you in a post"
  else if n.event = "comment_mention" then "mentioned you in a comment"
  else "did something"

end Notification

inductive Entry where
  | post (post : Post)
  | comment (comment : Comment)
  | notification (notification : Notification)
  | user (profile : Profile)
  deriving DecidableEq, Repr

inductive EntryKind where
  | post
  | comment
  | notification
  | user
  deriving DecidableEq, Repr

namespace Entry

def id : Entry → String
  | .post p => p.id
  | .comment c => c.id
  | .notification n => n.id
  | .user u => u.id

def time : Entry → Option Instant
  | .post p => some p.createdAt
  | .comment c => some c.createdAt
  | .notification n => some n.issuedAt
  | .user _ => none

end Entry

instance : Keyed Entry String := ⟨Entry.id⟩

end FeedReader
