import FeedReader.Screen.Canvas

/-!
# Parts of a rectangle in its middle

A part is found exactly if the sizes times their percentages stay in a word.  Nothing else leaves
its word on the way, and the part is as large as it should be and lies inside the rectangle.
-/

namespace FeedReader.Screen.Rect

variable {r part : Rect} {size percent percentWide percentHigh width height : Nat}

/-- Both ends of both sides are words of 16 bits. -/
structure InWords (r : Rect) : Prop where
  right : r.x + r.width < UInt16.size
  bottom : r.y + r.height < UInt16.size

structure IsWithin (inner outer : Rect) : Prop where
  left : outer.x ≤ inner.x
  top : outer.y ≤ inner.y
  right : inner.x + inner.width ≤ outer.x + outer.width
  bottom : inner.y + inner.height ≤ outer.y + outer.height

/-! ## Shares -/

theorem share?_eq_some_iff {share : Nat} :
    share? size percent = some share ↔
      size * percent < UInt16.size ∧ size * percent / 100 = share := by
  rw [share?, Option.map_eq_some_iff]
  simp [Word.mul?_eq_some_iff, and_assoc]

theorem share_le (h : percent ≤ 100) : size * percent / 100 ≤ size := by
  have hmul := Nat.mul_le_mul_left size h
  omega

/-! ## The middle -/

def middle (r : Rect) (width height : Nat) : Rect :=
  ⟨r.x + (r.width - width) / 2, r.y + (r.height - height) / 2, width, height⟩

theorem isWithin_middle (hwide : width ≤ r.width) (hhigh : height ≤ r.height) :
    (r.middle width height).IsWithin r := by
  constructor <;> simp only [middle] <;> omega

theorem centered?_of_lt (hr : r.InWords) (hwide : r.width * percentWide < UInt16.size)
    (hhigh : r.height * percentHigh < UInt16.size) :
    r.centered? percentWide percentHigh =
      some (r.middle (r.width * percentWide / 100) (r.height * percentHigh / 100)) := by
  have hx : r.x + (r.width - r.width * percentWide / 100) / 2 < UInt16.size := by
    have := hr.right
    omega
  have hy : r.y + (r.height - r.height * percentHigh / 100) / 2 < UInt16.size := by
    have := hr.bottom
    omega
  have hwidth := share?_eq_some_iff.mpr ⟨hwide, rfl⟩
  have hheight := share?_eq_some_iff.mpr ⟨hhigh, rfl⟩
  simp only [centered?, Option.bind_eq_bind, hwidth, hheight, Option.bind_some,
    Word.add?_of_lt hx, Word.add?_of_lt hy]
  rfl

theorem lt_of_centered? (h : r.centered? percentWide percentHigh = some part) :
    r.width * percentWide < UInt16.size ∧ r.height * percentHigh < UInt16.size := by
  simp only [centered?, Option.bind_eq_bind, Option.bind_eq_some_iff] at h
  obtain ⟨width, hwidth, height, hheight, -⟩ := h
  exact ⟨(share?_eq_some_iff.mp hwidth).1, (share?_eq_some_iff.mp hheight).1⟩

/--
The part in the middle is found exactly if both products stay in their words.  Then it is as large
as it should be and lies inside.
-/
theorem centered_exact_iff (hr : r.InWords) (hwide : percentWide ≤ 100)
    (hhigh : percentHigh ≤ 100) :
    ((∃ part, r.centered? percentWide percentHigh = some part) ↔
      r.width * percentWide < UInt16.size ∧ r.height * percentHigh < UInt16.size) ∧
    ∀ part, r.centered? percentWide percentHigh = some part →
      part.width = r.width * percentWide / 100 ∧
        part.height = r.height * percentHigh / 100 ∧ part.IsWithin r := by
  constructor
  · constructor
    · rintro ⟨part, hpart⟩
      exact lt_of_centered? hpart
    · rintro ⟨hw, hh⟩
      exact ⟨_, centered?_of_lt hr hw hh⟩
  · intro part hpart
    obtain ⟨hw, hh⟩ := lt_of_centered? hpart
    obtain rfl := Option.some.inj ((centered?_of_lt hr hw hh).symm.trans hpart)
    exact ⟨rfl, rfl, isWithin_middle (share_le hwide) (share_le hhigh)⟩

theorem centered_exact_of_wide_screen :
    let screen : Rect := { width := 819, height := 40 }
    screen.InWords ∧ screen.centered? 80 80 = some ⟨82, 4, 655, 32⟩ ∧
      655 = 819 * 80 / 100 ∧ IsWithin ⟨82, 4, 655, 32⟩ screen := by
  intro screen
  have hwords : screen.InWords := ⟨by decide, by decide⟩
  have hfound : screen.centered? 80 80 = some ⟨82, 4, 655, 32⟩ := by decide
  obtain ⟨hwidth, -, hwithin⟩ :=
    (centered_exact_iff hwords (show 80 ≤ 100 by decide) (show 80 ≤ 100 by decide)).2 _ hfound
  exact ⟨hwords, hfound, hwidth, hwithin⟩

/-- With one column more there is none, though 656 columns would fit. -/
theorem centered_lost_on_wider_screen :
    let screen : Rect := { width := 820, height := 40 }
    screen.InWords ∧ screen.centered? 80 80 = none ∧ 820 * 80 / 100 = 656 :=
  ⟨⟨by decide, by decide⟩, by decide, by decide⟩

end FeedReader.Screen.Rect
