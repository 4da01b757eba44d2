import FeedReader.Proofs.Url.Path
import FeedReader.Url.Host

/-!
# Marks in hosts

Whatever is read as a host is written without a question mark and without a hash: domain
names deny both, Punycode and addresses are made of digits.
-/

namespace FeedReader.Url

/-! ## Digits -/

theorem isTailMark_numeralDigit (n : Nat) : isTailMark n.digitChar = false := by
  obtain h | h := Nat.lt_or_ge n 16
  · interval_cases n <;> rfl
  · rw [Nat.digitChar_eq_star.mpr h]
    rfl

theorem isClean_toDigits {b : Nat} (hb : 1 < b) (n : Nat) : IsClean (Nat.toDigits b n) := by
  induction n using Nat.strongRecOn with
  | ind n ih =>
      have hlast : IsClean [(n % b).digitChar] :=
        isClean_cons.mpr ⟨isTailMark_numeralDigit _, isClean_nil⟩
      obtain h | h := Nat.lt_or_ge n b
      · rw [Nat.toDigits_of_lt_base h]
        exact isClean_cons.mpr ⟨isTailMark_numeralDigit _, isClean_nil⟩
      · rw [Nat.toDigits_of_base_le hb h]
        exact isClean_append.mpr ⟨ih _ (Nat.div_lt_self (by omega) hb), hlast⟩

theorem isClean_repr (n : Nat) : IsClean n.repr.toList := by
  rw [Nat.toList_repr]
  exact isClean_toDigits (by decide) n

/-! ## Parts between separators -/

theorem isClean_intercalate {sep : Char} (hsep : isTailMark sep = false)
    {pieces : List (List Char)} (h : ∀ piece ∈ pieces, IsClean piece) :
    IsClean ([sep].intercalate pieces) := by
  intro c hc
  obtain rfl | ⟨piece, hpiece, hin⟩ := mem_intercalate hc
  · exact hsep
  · exact h piece hpiece c hin

theorem subset_intercalate {α : Type} {sep piece : List α} {pieces : List (List α)}
    (h : piece ∈ pieces) : piece ⊆ sep.intercalate pieces := by
  induction pieces with
  | nil => cases h
  | cons first pieces ih =>
      cases pieces with
      | nil =>
          rw [List.intercalate_singleton, List.mem_singleton.mp h]
          exact .refl _
      | cons next pieces =>
          rw [List.intercalate_cons_cons]
          obtain rfl | hrest := List.mem_cons.mp h
          · exact fun c hc => List.mem_append_left _ (List.mem_append_left _ hc)
          · exact fun c hc => List.mem_append_right _ (ih hrest hc)

theorem IsClean.of_mem_splitOn {sep : Char} {s piece : List Char} (h : IsClean s)
    (hpiece : piece ∈ s.splitOn sep) : IsClean piece := by
  refine h.subset ?_
  rw [← @List.intercalate_splitOn _ s]
  exact subset_intercalate hpiece

/-! ## Punycode -/

namespace Punycode

theorem isTailMark_digitChar {d : Nat} (h : d < base) : isTailMark (digitChar d) = false := by
  rw [base] at h
  interval_cases d <;> rfl

theorem threshold_le (k bias : Nat) : threshold k bias ≤ tMax := by
  rw [threshold]
  split
  · decide
  · exact Nat.min_le_left _ _

theorem isClean_writeNumber (fuel q k bias : Nat) : IsClean (writeNumber fuel q k bias) := by
  have hthreshold : ∀ k, threshold k bias ≤ 26 := fun k => threshold_le k bias
  have hbase : base = 36 := rfl
  induction fuel generalizing q k with
  | zero => exact isClean_nil
  | succ fuel ih =>
      have hk := hthreshold k
      rw [writeNumber]
      split
      · exact isClean_cons.mpr ⟨isTailMark_digitChar (by omega), isClean_nil⟩
      · have hmod := Nat.mod_lt (q - threshold k bias) (y := base - threshold k bias) (by omega)
        exact isClean_cons.mpr ⟨isTailMark_digitChar (by omega), ih _ _⟩

theorem isClean_encodePoint {st : EncodeState} (h : IsClean st.written) (basic point : Nat)
    (c : Char) : IsClean (encodePoint basic point st c).written := by
  rw [encodePoint]
  split
  · exact h
  · split
    · exact isClean_append.mpr ⟨h, isClean_writeNumber _ _ _ _⟩
    · exact h

theorem isClean_encodePoints {s : List Char} {basic point : Nat} {st : EncodeState}
    {points : List Nat} (h : IsClean st.written) :
    IsClean (encodePoints s basic point st points).written := by
  induction points generalizing point st with
  | nil => exact h
  | cons next points ih =>
      have hpoint : ∀ (s : List Char) {st : EncodeState}, IsClean st.written →
          IsClean (s.foldl (encodePoint basic next) st).written := by
        intro s
        induction s with
        | nil => exact fun h => h
        | cons c s ihs => exact fun h => ihs (isClean_encodePoint h basic next c)
      exact ih (hpoint s h)

theorem isClean_encode {s : List Char} (h : IsClean s) : IsClean (encode s) := by
  refine isClean_append.mpr ⟨?_, isClean_encodePoints isClean_nil⟩
  split
  · exact isClean_nil
  · exact isClean_append.mpr
      ⟨h.subset List.filter_sublist.subset, isClean_cons.mpr ⟨rfl, isClean_nil⟩⟩

end Punycode

/-! ## Names -/

namespace DomainName

theorem isClean_of_not_denied {s : List Char} (h : ∀ c ∈ s, isDenied c = false) : IsClean s := by
  have hquestion : isDenied '?' = true := by decide
  have hhash : isDenied '#' = true := by decide
  refine isClean_iff_not_mem.mpr ⟨fun hc => ?_, fun hc => ?_⟩
  · exact absurd hquestion (by simp [h _ hc])
  · exact absurd hhash (by simp [h _ hc])

theorem isClean_ascii {s : List Char} (hs : IsClean s) {label : Label}
    (h : label? s = some label) : IsClean label.ascii := by
  have hwritten : IsClean ("xn--".toList ++ Punycode.encode s) :=
    isClean_append.mpr ⟨by decide, Punycode.isClean_encode hs⟩
  have hascii : label.ascii = s ∨ label.ascii = "xn--".toList ++ Punycode.encode s := by
    grind [label?]
  obtain h | h := hascii
  · rwa [h]
  · rwa [h]

theorem exists_of_mapM {α β : Type} {f : α → Option β} {xs : List α} {ys : List β} {y : β}
    (h : xs.mapM f = some ys) (hy : y ∈ ys) : ∃ x ∈ xs, f x = some y := by
  induction xs generalizing ys with
  | nil =>
      obtain rfl : [] = ys := by simpa using h
      cases hy
  | cons x xs ih =>
      simp only [List.mapM_cons, Option.bind_eq_bind, Option.bind_eq_some_iff] at h
      obtain ⟨first, hfirst, rest, hrest, hys⟩ := h
      obtain rfl : first :: rest = ys := by simpa using hys
      obtain rfl | hin := List.mem_cons.mp hy
      · exact ⟨x, List.mem_cons_self, hfirst⟩
      · obtain ⟨x', hx', heq⟩ := ih hrest hin
        exact ⟨x', List.mem_cons_of_mem _ hx', heq⟩

theorem isClean_toAscii? {name ascii : List Char} (h : toAscii? name = some ascii) :
    IsClean ascii := by
  simp only [toAscii?, Option.bind_eq_bind, Option.bind_eq_some_iff] at h
  obtain ⟨form, -, h⟩ := h
  split at h
  · cases h
  · next hallowed =>
      rw [Option.bind_eq_some_iff] at h
      obtain ⟨labels, hlabels, h⟩ := h
      have hform : IsClean form := isClean_of_not_denied (by simpa using hallowed)
      have hascii : ['.'].intercalate (labels.map Label.ascii) = ascii := by
        split at h
        · cases h
        · exact Option.some.inj h
      rw [← hascii]
      refine isClean_intercalate rfl (List.forall_mem_map.mpr fun label hlabel => ?_)
      obtain ⟨piece, hpiece, hread⟩ := exists_of_mapM hlabels hlabel
      exact isClean_ascii (hform.of_mem_splitOn hpiece) hread

end DomainName

/-! ## Hosts -/

theorem isClean_ipv4Text (address : Nat) : IsClean (ipv4Text address).toList := by
  have hdot : IsClean ".".toList := isClean_cons.mpr ⟨rfl, isClean_nil⟩
  simp only [ipv4Text, String.toList_append, isClean_append]
  exact ⟨⟨⟨⟨⟨⟨isClean_repr _, hdot⟩, isClean_repr _⟩, hdot⟩, isClean_repr _⟩, hdot⟩,
    isClean_repr _⟩

theorem isClean_ipv6Text (pieces : List Nat) : IsClean (ipv6Text pieces).toList := by
  have hgroups : ∀ pieces : List Nat,
      IsClean (":".intercalate (pieces.map lowerHex)).toList := by
    intro pieces
    rw [String.toList_intercalate]
    refine isClean_intercalate rfl ?_
    simp only [List.map_map, List.forall_mem_map]
    intro n _
    change IsClean (lowerHex n).toList
    rw [lowerHex, String.toList_ofList]
    exact isClean_toDigits (by decide) n
  rw [ipv6Text]
  split
  split
  · exact hgroups _
  · rw [String.toList_append, String.toList_append]
    exact isClean_append.mpr ⟨isClean_append.mpr ⟨hgroups _, by decide⟩, hgroups _⟩

theorem Host.isClean_text {s : List Char} {host : Host} (h : Host.parse s = .ok host) :
    IsClean host.text := by
  cases host with
  | domain name =>
      rw [Host.parse] at h
      split at h
      · rw [bracketed] at h
        grind
      · split at h
        · cases h
        · next ascii hascii =>
            obtain ⟨text, -, hname⟩ := Option.bind_eq_some_iff.mp hascii
            obtain rfl : ascii = name := by grind
            exact DomainName.isClean_toAscii? hname
  | ipv4 address => exact isClean_ipv4Text address
  | ipv6 pieces =>
      exact isClean_cons.mpr ⟨rfl,
        isClean_append.mpr ⟨isClean_ipv6Text pieces, isClean_cons.mpr ⟨rfl, isClean_nil⟩⟩⟩

end FeedReader.Url
