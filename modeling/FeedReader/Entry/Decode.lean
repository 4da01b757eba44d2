import FeedReader.Entry.Basic
import FeedReader.Json.Record
import FeedReader.Time.Timestamp

/-!
# Reading entries and pages
-/

namespace FeedReader

open Json (Field Fault Reader Filled)

/-! ## Fields -/

namespace Wire

def text (name : String) : Field := { name, Value := String, read := Json.string }

def textOr (name : String) (value : String) : Field :=
  { name, Value := String, read := Json.string, default? := some value }

def maybeText (name : String) : Field :=
  { name, Value := Option String, read := Json.optional Json.string, default? := some none }

def flag (name : String) : Field :=
  { name, Value := Bool, read := Json.boolean, default? := some false }

def count (name : String) : Field :=
  { name, Value := Nat, read := Json.count, default? := some 0 }

def texts (name : String) : Field :=
  { name, Value := List String, read := Json.list Json.string, default? := some [] }

def time (name : String) : Field :=
  { name, Value := Time.Instant, read := Json.refine Json.string Time.timestamp? }

end Wire

def recordOf {α : Type} (fields : List Field) (make : Filled fields → α) : Reader α :=
  fun budget s => (Json.record fields budget s).map fun r => (make r.1, r.2)

/-! ## Records -/

def Author.reader : Reader Author :=
  recordOf [Wire.text "username", Wire.maybeText "avatarURL"]
    fun (username, avatarUrl, ()) => { username, avatarUrl }

def Wire.author (name : String) : Field :=
  { name, Value := Option Author, read := Json.optional Author.reader, default? := some none }

def Post.reader : Reader Post :=
  recordOf [Wire.text "id", Wire.textOr "content" "", Wire.author "user", Wire.flag "nsfw",
      Wire.maybeText "spoilerOf", Wire.count "reactionsCount", Wire.count "commentsCount",
      Wire.time "createdAt"]
    fun (id, content, author, nsfw, spoilerOf, reactions, comments, createdAt, ()) =>
      { id, content, author, nsfw, spoilerOf, reactions, comments, createdAt }

def Comment.reader : Reader Comment :=
  recordOf [Wire.text "id", Wire.maybeText "postID", Wire.textOr "content" "", Wire.author "user",
      Wire.count "reactionsCount", Wire.time "createdAt"]
    fun (id, postId, content, author, reactions, createdAt, ()) =>
      { id, postId, content, author, reactions, createdAt }

def Notification.reader : Reader Notification :=
  recordOf [Wire.text "id", Wire.texts "actors", Wire.text "type", Wire.maybeText "postID",
      Wire.flag "read", Wire.time "issuedAt"]
    fun (id, actors, event, postId, read, issuedAt, ()) =>
      { id, actors, event, postId, read, issuedAt }

def Profile.reader : Reader Profile :=
  recordOf [Wire.text "id", Wire.text "username", Wire.count "followersCount",
      Wire.count "followeesCount", Wire.flag "following", Wire.flag "followeed"]
    fun (id, username, followers, followees, following, followsBack, ()) =>
      { id, username, followers, followees, following, followsBack }

def mapReader {α β : Type} (f : α → β) (read : Reader α) : Reader β :=
  fun budget s => (read budget s).map fun r => (f r.1, r.2)

namespace EntryKind

def reader : EntryKind → Reader Entry
  | .post => mapReader .post Post.reader
  | .comment => mapReader .comment Comment.reader
  | .notification => mapReader .notification Notification.reader
  | .user => mapReader .user Profile.reader

def pageReader (kind : EntryKind) : Reader (Page Entry) :=
  recordOf [
      { name := "items", Value := List Entry, read := Json.list kind.reader, default? := some [] },
      Wire.maybeText "startCursor", Wire.maybeText "endCursor"]
    fun (items, startCursor, endCursor, ()) => { items, startCursor, endCursor }

def decode (kind : EntryKind) (bytes : Json.Bytes) : Except Fault Entry :=
  Json.readAll kind.reader bytes

def decodePage (kind : EntryKind) (bytes : Json.Bytes) : Except Fault (Page Entry) :=
  Json.readAll kind.pageReader bytes

end EntryKind

end FeedReader
