import FeedReader.Entry.Line
import FeedReader.Proofs.Splits
import FeedReader.Proofs.Text.Flattening
import FeedReader.Proofs.Text.Truncation

/-!
# What rows show

A row is put together from fixed texts, numerals and texts of the server, and every text of the
server has been made one line before it gets there.  So no row can drive a terminal.  A post that
hides its content shows nothing of it.
-/

namespace FeedReader

open Screen (Span Line colored plainSpan)
open Text (isControl singleLine truncate)

/-! ## Texts without control characters -/

def IsQuiet (s : String) : Prop := ∀ c ∈ s.toList, isControl c = false

instance (s : String) : Decidable (IsQuiet s) := List.decidableBAll _ _

@[simp] theorem isQuiet_append {s t : String} : IsQuiet (s ++ t) ↔ IsQuiet s ∧ IsQuiet t := by
  rw [IsQuiet, String.toList_append, List.forall_mem_append]
  rfl

@[simp] theorem isQuiet_singleLine (s : String) : IsQuiet (singleLine s) :=
  (Text.isTidy_singleLine s).no_control

theorem isQuiet_truncate {s : String} (h : IsQuiet s) (limit : Nat) :
    IsQuiet (truncate s limit) := by
  rw [truncate]
  split_ifs
  · exact h
  · decide
  · intro c hc
    rw [String.toList_ofList, List.mem_append, List.mem_singleton] at hc
    obtain hc | rfl := hc
    · exact h c ((Text.fitting_isPrefix (limit - 1) s.toList).subset hc)
    · decide

theorem isControl_of_isDigit {c : Char} (h : c.isDigit = true) : isControl c = false := by
  obtain ⟨hlow, hhigh⟩ : 48 ≤ c.toNat ∧ c.toNat ≤ 57 := Char.isDigit_iff_toNat.mp h
  simp [isControl, Text.within]
  omega

theorem isQuiet_repr (n : Nat) : IsQuiet n.repr := by
  intro c hc
  rw [Nat.toList_repr] at hc
  exact isControl_of_isDigit (Nat.isDigit_of_mem_toDigits (by decide) (by decide) hc)

theorem isQuiet_intercalate {parts : List String} (h : ∀ part ∈ parts, IsQuiet part) :
    IsQuiet (" ".intercalate parts) := by
  intro c hc
  rw [String.toList_intercalate] at hc
  obtain rfl | ⟨piece, hpiece, hin⟩ := mem_intercalate hc
  · decide
  · obtain ⟨part, hpart, rfl⟩ := List.mem_map.mp hpiece
    exact h part hpart c hin

/-! ## Parts of a row -/

def IsQuietLine (line : Line) : Prop := ∀ span ∈ line, IsQuiet span.text

@[simp] theorem isQuietLine_nil : IsQuietLine [] := List.forall_mem_nil _

@[simp] theorem isQuietLine_cons {span : Span} {line : Line} :
    IsQuietLine (span :: line) ↔ IsQuiet span.text ∧ IsQuietLine line :=
  List.forall_mem_cons

@[simp] theorem isQuietLine_append {line more : Line} :
    IsQuietLine (line ++ more) ↔ IsQuietLine line ∧ IsQuietLine more :=
  List.forall_mem_append

@[simp] theorem text_colored (color : Screen.Color) (text : String) :
    (colored color text).text = text := rfl

@[simp] theorem text_plainSpan (text : String) : (plainSpan text).text = text := rfl

@[simp] theorem isQuiet_gap : IsQuiet "  " := by decide

theorem isQuiet_heart : IsQuiet "♥" := by decide

theorem isQuiet_handle (name : String) : IsQuiet ("@" ++ singleLine name) :=
  isQuiet_append.mpr ⟨by decide, isQuiet_singleLine name⟩

theorem isQuiet_authorSpan (author : Option Author) : IsQuiet (authorSpan author).text :=
  isQuiet_handle (Author.shown author)

theorem isQuiet_contentSpan (content : String) : IsQuiet (contentSpan content).text :=
  isQuiet_truncate (isQuiet_singleLine content) maxContentWidth

theorem isQuietLine_countSpans {counts : List (String × Nat)}
    (h : ∀ count ∈ counts, IsQuiet count.1) : IsQuietLine (countSpans counts) := by
  rw [countSpans]
  split
  · exact isQuietLine_nil
  · refine isQuietLine_cons.mpr ⟨isQuiet_append.mpr ⟨isQuiet_gap, ?_⟩, isQuietLine_nil⟩
    refine isQuiet_intercalate fun part hpart => ?_
    obtain ⟨⟨sign, n⟩, hcount, rfl⟩ := List.mem_map.mp hpart
    exact isQuiet_append.mpr ⟨h _ (List.mem_filter.mp hcount).1, isQuiet_repr n⟩

theorem isQuiet_body (post : Post) : IsQuiet post.body.text := by
  have hopening : IsQuiet "[spoiler: " := by decide
  have hclosing : IsQuiet "]" := by decide
  rw [Post.body]
  split
  · simp [hopening, hclosing]
  · split_ifs
    · decide
    · exact isQuiet_contentSpan post.content

theorem isQuiet_describe (n : Notification) : IsQuiet n.describe := by
  rw [Notification.describe]
  split_ifs <;> decide

/-! ## Rows -/

theorem isQuietLine_post (post : Post) : IsQuietLine post.line := by
  have harrow : IsQuiet "↩" := by decide
  have hcounts : IsQuietLine (countSpans [("♥", post.reactions), ("↩", post.comments)]) :=
    isQuietLine_countSpans (by simp [isQuiet_heart, harrow])
  simp [Post.line, isQuiet_authorSpan, isQuiet_body, hcounts]

theorem isQuietLine_comment (comment : Comment) : IsQuietLine comment.line := by
  have hcounts : IsQuietLine (countSpans [("♥", comment.reactions)]) :=
    isQuietLine_countSpans (by simp [isQuiet_heart])
  simp [Comment.line, isQuiet_authorSpan, isQuiet_contentSpan, hcounts]

theorem isQuietLine_notification (n : Notification) : IsQuietLine n.line := by
  have hmark : IsQuiet "● " := by decide
  have hspace : IsQuiet " " := by decide
  rw [Notification.line]
  split <;> simp [isQuiet_describe, hmark, hspace]

theorem isQuietLine_profile (profile : Profile) : IsQuietLine profile.line := by
  have hback : IsQuiet "  follows you" := by decide
  have hmark : IsQuiet "  ✓" := by decide
  have hcounts :
      IsQuiet s!"  {profile.followers} followers · {profile.followees} following" := by
    simp only [isQuiet_append]
    exact ⟨⟨⟨⟨by decide, isQuiet_repr _⟩, by decide⟩, isQuiet_repr _⟩, by decide⟩
  rw [Profile.line, isQuietLine_append, isQuietLine_append, isQuietLine_cons, isQuietLine_cons]
  refine ⟨⟨⟨isQuiet_handle _, hcounts, isQuietLine_nil⟩, ?_⟩, ?_⟩
  · split <;> simp [hback]
  · split <;> simp [hmark]

theorem isQuietLine_entry (entry : Entry) : IsQuietLine entry.line := by
  cases entry with
  | post post => exact isQuietLine_post post
  | comment comment => exact isQuietLine_comment comment
  | notification n => exact isQuietLine_notification n
  | user profile => exact isQuietLine_profile profile

theorem body_of_hidden {post : Post} (h : post.spoilerOf ≠ none ∨ post.nsfw = true)
    (content : String) : Post.body { post with content } = post.body := by
  rw [Post.body, Post.body]
  cases hspoiler : post.spoilerOf with
  | some topic => rfl
  | none =>
      have hnsfw : post.nsfw = true := h.resolve_left fun hne => hne hspoiler
      simp [hnsfw]

/--
No span of any row has a control character in it, and of two posts that differ only in a content
that both of them hide the rows are the same.
-/
theorem rows_show_filtered_texts :
    (∀ entry : Entry, ∀ span ∈ entry.line, ∀ c ∈ span.text.toList, isControl c = false) ∧
      ∀ (post : Post) (content content' : String), post.spoilerOf ≠ none ∨ post.nsfw = true →
        (Entry.post { post with content }).line =
          (Entry.post { post with content := content' }).line := by
  refine ⟨isQuietLine_entry, fun post content content' hhidden => ?_⟩
  have hbody : Post.body { post with content } = Post.body { post with content := content' } :=
    (body_of_hidden hhidden content).trans (body_of_hidden hhidden content').symm
  change Post.line { post with content } = Post.line { post with content := content' }
  rw [Post.line, Post.line, hbody]

def noisyNotice : Notification where
  id := "n1"
  actors := ["\x1b[2Jann\x07", "bob\r\n"]
  event := "follow"
  issuedAt := ⟨0, 0⟩

def spoiler : Post where
  id := "p1"
  spoilerOf := some "the\nfinale"
  createdAt := ⟨0, 0⟩

theorem rows_show_filtered_texts_of_noisy_names :
    ⟨"ann and bob followed you", { bold := true }⟩ ∈ (Entry.notification noisyNotice).line ∧
      'f' ∈ "ann and bob followed you".toList ∧ isControl 'f' = false ∧
      spoiler.spoilerOf ≠ none ∧
      (Entry.post { spoiler with content := "she wins" }).line =
        (Entry.post { spoiler with content := "she loses" }).line := by
  obtain ⟨hquiet, hhidden⟩ := rows_show_filtered_texts
  have hspan : ⟨"ann and bob followed you", { bold := true }⟩ ∈
      (Entry.notification noisyNotice).line := by decide +kernel
  have hletter : 'f' ∈ "ann and bob followed you".toList := by decide
  have hspoiler : spoiler.spoilerOf ≠ none := by decide
  exact ⟨hspan, hletter, hquiet _ _ hspan 'f' hletter, hspoiler,
    hhidden spoiler "she wins" "she loses" (.inl hspoiler)⟩

end FeedReader
