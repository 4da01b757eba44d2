import FeedReader.Entry.Basic
import FeedReader.Screen.Style
import FeedReader.Text.Line
import FeedReader.Text.Truncate

/-!
# Rows of the lists

A row is made once, when its entry comes into the feed or is refreshed; it
depends neither on the clock nor on the screen.  Texts from the server pass
through `singleLine`.
-/

namespace FeedReader

open Screen (Span Line colored plainSpan)
open Text (singleLine truncate)

/-- Columns of content that a row holds; the screen clips the rest. -/
def maxContentWidth : Nat := 160

def authorSpan (author : Option Author) : Span :=
  colored .cyan ("@" ++ singleLine (Author.shown author))

def contentSpan (content : String) : Span :=
  plainSpan (truncate (singleLine content) maxContentWidth)

def countSpans (counts : List (String × Nat)) : List Span :=
  match counts.filter fun (_, n) => n ≠ 0 with
  | [] => []
  | counts =>
      [colored .darkGray ("  " ++ " ".intercalate (counts.map fun (sign, n) => sign ++ toString n))]

def Post.body (post : Post) : Span :=
  match post.spoilerOf with
  | some topic => colored .yellow ("[spoiler: " ++ singleLine topic ++ "]")
  | none => if post.nsfw then colored .red "[nsfw]" else contentSpan post.content

def Post.line (post : Post) : Line :=
  [authorSpan post.author, plainSpan "  ", post.body] ++
    countSpans [("♥", post.reactions), ("↩", post.comments)]

def Comment.line (comment : Comment) : Line :=
  [authorSpan comment.author, plainSpan "  ", contentSpan comment.content] ++
    countSpans [("♥", comment.reactions)]

def Notification.line (n : Notification) : Line :=
  let text := singleLine n.actorSummary ++ " " ++ n.describe
  if n.read then [colored .cyan "  ", colored .gray text]
  else [colored .cyan "● ", ⟨text, { bold := true }⟩]

def Profile.line (profile : Profile) : Line :=
  [colored .cyan ("@" ++ singleLine profile.username),
    colored .darkGray s!"  {profile.followers} followers · {profile.followees} following"] ++
    (if profile.followsBack then [colored .green "  follows you"] else []) ++
    (if profile.following then [colored .green "  ✓"] else [])

def Entry.line : Entry → Line
  | .post p => p.line
  | .comment c => c.line
  | .notification n => n.line
  | .user u => u.line

end FeedReader
