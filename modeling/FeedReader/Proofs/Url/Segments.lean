import FeedReader.Proofs.Url.Path

/-!
# Segments of web addresses

A segment that is added to a path stands in it escaped, and is read back as it was, if it is
plain: no lone dot or double dot, and without tabs and line ends.  A lone dot or double dot
adds nothing.  Tabs and line ends are dropped; where a dot or a double dot is left, an empty
segment is added, after a double dot in place of the one before it.
-/

namespace FeedReader.Url

open Text (encode encodeChar)

def IsPlain (segment : String) : Prop :=
  segment ≠ "." ∧ segment ≠ ".." ∧ ∀ c ∈ segment.toList, isTabOrNewline c = false

instance (segment : String) : Decidable (IsPlain segment) :=
  @instDecidableAnd _ _ _ (@instDecidableAnd _ _ _ (List.decidableBAll _ _))

theorem dropBreaks_eq_self_iff {s : List Char} :
    dropBreaks s = s ↔ ∀ c ∈ s, isTabOrNewline c = false := by
  simp [dropBreaks]

/-! ## Dots -/

theorem eq_of_percentEncode_mem {s dots : List Char} {forms : List String}
    (hmem : forms.contains (String.ofList (percentEncode inSpecialSegment s)) = true)
    (hforms : ∀ form ∈ forms, percentDecode form.toList = dots.flatMap encodeChar) :
    s = dots := by
  have hback := hforms _ (List.contains_iff_mem.mp hmem)
  rw [String.toList_ofList, percentDecode_percentEncode (by decide)] at hback
  exact Text.flatMap_encodeChar_inj hback

theorem isSingleDot_percentEncode_iff {s : List Char} :
    isSingleDot (percentEncode inSpecialSegment s) = true ↔ s = ['.'] := by
  constructor
  · exact fun h => eq_of_percentEncode_mem h (by decide)
  · rintro rfl
    decide

theorem isDoubleDot_percentEncode_iff {s : List Char} :
    isDoubleDot (percentEncode inSpecialSegment s) = true ↔ s = ['.', '.'] := by
  constructor
  · exact fun h => eq_of_percentEncode_mem h (by decide)
  · rintro rfl
    decide

/-! ## Adding a segment -/

section Push

variable {path : List Char} {segment : String}

theorem pushSegment_eq (hpath : path.length ≠ 1) (hdot : segment ≠ ".") (hdots : segment ≠ "..") :
    pushSegment .special path segment =
      (PathState.add .special { path := '/' :: path.reverse }
        (percentEncode inSpecialSegment (dropBreaks segment.toList)) false).path.reverse := by
  have hkind : SchemeKind.special.isSpecial = true := rfl
  simp only [pushSegment, hdot, hdots, hpath, hkind, if_true, if_false, singleRoot,
    List.reverse_append, List.reverse_singleton, List.singleton_append]
  exact if_neg (by simp)

theorem pushSegment_of_dots (h : segment = "." ∨ segment = "..") :
    pushSegment .special path segment = path := by
  rw [pushSegment, if_pos (by simpa using h)]

theorem pushSegment_of_ordinary (hpath : path.length ≠ 1) (hdot : segment ≠ ".")
    (hdots : segment ≠ "..") (hsingle : dropBreaks segment.toList ≠ ['.'])
    (hdouble : dropBreaks segment.toList ≠ ['.', '.']) :
    pushSegment .special path segment =
      path ++ '/' :: percentEncode inSpecialSegment (dropBreaks segment.toList) := by
  rw [pushSegment_eq hpath hdot hdots, PathState.add,
    if_neg (mt isDoubleDot_percentEncode_iff.mp hdouble),
    if_neg (mt isSingleDot_percentEncode_iff.mp hsingle), if_neg (by simp), PathState.append]
  simp

theorem pushSegment_of_plain (hpath : path.length ≠ 1) (h : IsPlain segment) :
    pushSegment .special path segment =
      path ++ '/' :: percentEncode inSpecialSegment segment.toList := by
  obtain ⟨hdot, hdots, hbreaks⟩ := h
  have hkept := dropBreaks_eq_self_iff.mpr hbreaks
  have hne : ∀ text : String, segment ≠ text → dropBreaks segment.toList ≠ text.toList := by
    intro text htext
    rw [hkept]
    exact mt String.toList_inj.mp htext
  rw [pushSegment_of_ordinary hpath hdot hdots (hne "." hdot) (hne ".." hdots), hkept]

theorem pushSegment_of_hidden_dot (hpath : path.length ≠ 1) (hdot : segment ≠ ".")
    (hsingle : dropBreaks segment.toList = ['.']) :
    pushSegment .special path segment = path ++ ['/'] := by
  have hdots : segment ≠ ".." := by
    rintro rfl
    exact absurd hsingle (by decide)
  rw [pushSegment_eq hpath hdot hdots, hsingle, PathState.add,
    if_neg (mt isDoubleDot_percentEncode_iff.mp (by decide)),
    if_pos (isSingleDot_percentEncode_iff.mpr rfl)]
  simp [endsWithSlash]

theorem pushSegment_of_hidden_dots {front name : List Char} (hname : '/' ∉ name)
    (hdrive : startsWithDrive (name ++ ['/']) = false) (hdots : segment ≠ "..")
    (hdouble : dropBreaks segment.toList = ['.', '.']) (hpath : path = front ++ '/' :: name)
    (hlength : path.length ≠ 1) :
    pushSegment .special path segment = front ++ ['/'] := by
  have hdot : segment ≠ "." := by
    rintro rfl
    exact absurd hdouble (by decide)
  have hreverse : path.reverse = name.reverse ++ '/' :: front.reverse := by simp [hpath]
  have hstop : ∀ c ∈ name.reverse, decide (c ≠ '/') = true := by
    intro c hc
    refine decide_eq_true ?_
    rintro rfl
    exact hname (List.mem_reverse.mp hc)
  have hlast : lastSegment path.reverse = name := by
    rw [lastSegment, hreverse, List.takeWhile_append_of_pos hstop,
      List.takeWhile_cons_of_neg (by simp), List.append_nil, List.reverse_reverse]
  have hmay : mayDropSlash ('/' :: path.reverse) = true := by
    simp only [mayDropSlash, hlast, hdrive, Bool.not_false, Bool.and_true]
    simp [hreverse]
  have hshort : shorten .special path.reverse = '/' :: front.reverse := by
    rw [shorten, if_neg (by simp), hreverse, List.dropWhile_append_of_pos hstop,
      List.dropWhile_cons_of_neg (by simp)]
  rw [pushSegment_eq hlength hdot hdots, hdouble, PathState.add,
    if_pos (isDoubleDot_percentEncode_iff.mpr rfl), if_pos hmay, List.drop_one, List.tail_cons,
    hshort]
  simp

theorem pushSegment_of_not_plain {front name : List Char} (hfront : 1 < front.length)
    (hname : '/' ∉ name) (hdrive : startsWithDrive (name ++ ['/']) = false)
    (h : ¬IsPlain segment) :
    pushSegment .special (front ++ '/' :: name) segment = front ++ '/' :: name ∨
      pushSegment .special (front ++ '/' :: name) segment = front ++ ['/'] ∨
      ∃ text, text ≠ segment.toList ∧ pushSegment .special (front ++ '/' :: name) segment =
        front ++ '/' :: name ++ '/' :: percentEncode inSpecialSegment text := by
  have hlength : (front ++ '/' :: name).length ≠ 1 := by
    rw [List.length_append]
    omega
  by_cases hdotted : segment = "." ∨ segment = ".."
  · exact .inl (pushSegment_of_dots hdotted)
  obtain ⟨hdot, hdots⟩ := not_or.mp hdotted
  have hbreaks : dropBreaks segment.toList ≠ segment.toList :=
    fun heq => h ⟨hdot, hdots, dropBreaks_eq_self_iff.mp heq⟩
  by_cases hdouble : dropBreaks segment.toList = ['.', '.']
  · exact .inr (.inl (pushSegment_of_hidden_dots hname hdrive hdots hdouble rfl hlength))
  refine .inr (.inr ?_)
  by_cases hsingle : dropBreaks segment.toList = ['.']
  · refine ⟨[], fun heq => ?_, pushSegment_of_hidden_dot hlength hdot hsingle⟩
    rw [← heq] at hsingle
    cases hsingle
  · exact ⟨_, hbreaks, pushSegment_of_ordinary hlength hdot hdots hsingle hdouble⟩

theorem rooted_pushSegment (h : Rooted path.reverse) (segment : String) :
    Rooted (pushSegment .special path segment).reverse := by
  simp only [pushSegment]
  split
  · exact h
  · have hstart : Rooted (if path.length = 1 then path else path ++ ['/']).reverse := by
      split
      · exact h
      · rw [List.reverse_append]
        exact h.push
    simp only [singleRoot, reduceCtorEq, if_false, List.reverse_reverse]
    refine PathState.rooted_add ?_ (isClean_percentEncode (by decide) (by decide) _) false
    exact hstart

end Push

theorem pushSegment_congr {kind : SchemeKind} {path : List Char} {s t : String}
    (hs : s ≠ "." ∧ s ≠ "..") (ht : t ≠ "." ∧ t ≠ "..")
    (h : dropBreaks s.toList = dropBreaks t.toList) :
    pushSegment kind path s = pushSegment kind path t := by
  simp only [pushSegment, hs.1, hs.2, ht.1, ht.2, h]

theorem exists_rival (s : String) :
    ∃ t, t ≠ s ∧ ∀ kind path, pushSegment kind path t = pushSegment kind path s := by
  by_cases hdot : s = "."
  · exact ⟨"..", by simp [hdot], fun kind path => by simp [pushSegment, hdot]⟩
  by_cases hdots : s = ".."
  · exact ⟨".", by simp [hdots], fun kind path => by simp [pushSegment, hdots]⟩
  have hne : ∀ text : String, '\t' ∉ text.toList → String.ofList ('\t' :: s.toList) ≠ text := by
    rintro _ hin rfl
    exact hin (by simp)
  refine ⟨String.ofList ('\t' :: s.toList), ?_, fun kind path => ?_⟩
  · intro heq
    have hlength := congrArg (fun text : String => text.toList.length) heq
    simp at hlength
  · refine pushSegment_congr ⟨hne "." (by decide), hne ".." (by decide)⟩ ⟨hdot, hdots⟩ ?_
    simp [dropBreaks, isTabOrNewline]

/-! ## What a path leads to -/

def joined (names : List (List Char)) : List Char := names.flatMap ('/' :: ·)

theorem joined_cons (name : List Char) (names : List (List Char)) :
    joined (name :: names) = '/' :: name ++ joined names :=
  List.flatMap_cons

theorem splitOn_append_joined {front : List Char} {names : List (List Char)}
    (hfront : '/' ∉ front) (hnames : ∀ name ∈ names, '/' ∉ name) :
    (front ++ joined names).splitOn '/' = front :: names := by
  induction names generalizing front with
  | nil => rw [joined, List.flatMap_nil, List.append_nil, List.splitOn_eq_singleton hfront]
  | cons name names ih =>
      obtain ⟨hname, hrest⟩ := List.forall_mem_cons.mp hnames
      rw [joined_cons, List.cons_append, List.splitOn_append_cons_self, ih hname hrest,
        List.splitOn_eq_singleton hfront, List.singleton_append]

theorem IsDirectory.exists_folders {root : List Char} (h : IsDirectory root) :
    ∃ folders, segmentsOf root = folders ++ [[]] ∧
      ∀ rest, segmentsOf (root ++ rest) = folders ++ rest.splitOn '/' := by
  obtain ⟨inner, hinner⟩ := List.head?_eq_some_iff.mp h.root
  have hclosed := h.closed
  rw [hinner] at hclosed
  cases hlast : inner using List.reverseRecOn with
  | nil =>
      refine ⟨[], ?_, fun rest => ?_⟩ <;> rw [hinner, hlast]
      · exact List.splitOn_nil '/'
      · rfl
  | append_singleton front c =>
      have hc : c = '/' := by simpa [hlast, List.getLast?_cons] using hclosed
      have hsplit : ∀ rest, segmentsOf (root ++ rest) =
          front.splitOn '/' ++ rest.splitOn '/' := by
        intro rest
        rw [segmentsOf, hinner, hlast, hc, List.cons_append, List.drop_one, List.tail_cons,
          List.append_assoc, List.singleton_append, List.splitOn_append_cons_self]
      refine ⟨front.splitOn '/', ?_, hsplit⟩
      rw [← List.splitOn_nil '/', ← hsplit [], List.append_nil]

/--
A path goes from a directory into a folder and on, one segment for each step; read back, the
segment is the step.
-/
def Leads (root : List Char) (folder : String) (steps : List String) (path : List Char) : Prop :=
  ∃ folders names, segmentsOf root = folders ++ [[]] ∧
    segmentsOf path = folders ++ folder.toList :: names ∧
    names.map percentDecode = steps.map encode

theorem IsDirectory.leads_iff {root : List Char} {folder : String} {steps : List String}
    {names : List (List Char)} (h : IsDirectory root) (hfolder : '/' ∉ folder.toList)
    (hnames : ∀ name ∈ names, '/' ∉ name) :
    Leads root folder steps (root ++ folder.toList ++ joined names) ↔
      names.map percentDecode = steps.map encode := by
  obtain ⟨folders, hroot, hsplit⟩ := h.exists_folders
  have hpath : segmentsOf (root ++ folder.toList ++ joined names) =
      folders ++ folder.toList :: names := by
    rw [List.append_assoc, hsplit, splitOn_append_joined hfolder hnames]
  constructor
  · rintro ⟨folders', names', hroot', hpath', hread⟩
    obtain rfl := List.append_cancel_right (hroot.symm.trans hroot')
    rw [hpath, List.append_cancel_left_eq, List.cons.injEq] at hpath'
    rwa [hpath'.2]
  · exact fun hread => ⟨folders, names, hroot, hpath, hread⟩

theorem Leads.unique {root path : List Char} {folder : String} {steps steps' : List String}
    (h : Leads root folder steps path) (h' : Leads root folder steps' path) : steps = steps' := by
  obtain ⟨folders, names, hroot, hpath, hread⟩ := h
  obtain ⟨folders', names', hroot', hpath', hread'⟩ := h'
  obtain rfl := List.append_cancel_right (hroot.symm.trans hroot')
  rw [hpath, List.append_cancel_left_eq, List.cons.injEq] at hpath'
  have hsame : steps.map encode = steps'.map encode := by rw [← hread, hpath'.2, hread']
  exact List.map_inj_right (fun _ _ => Text.encode_inj) |>.mp hsame

theorem foldl_pushSegment_of_plain {segments : List String} {path : List Char}
    (hpath : 1 < path.length) (h : ∀ s ∈ segments, IsPlain s) :
    segments.foldl (pushSegment .special) path =
      path ++ joined (segments.map fun s => percentEncode inSpecialSegment s.toList) := by
  induction segments generalizing path with
  | nil => simp [joined]
  | cons s segments ih =>
      obtain ⟨hs, hrest⟩ := List.forall_mem_cons.mp h
      have hlonger : 1 < (path ++ '/' :: percentEncode inSpecialSegment s.toList).length := by
        rw [List.length_append]
        omega
      rw [List.foldl_cons, pushSegment_of_plain (by omega) hs, ih hlonger hrest, List.map_cons,
        joined_cons, List.append_assoc, List.cons_append]

theorem foldl_pushSegment_of_not_plain {before segment after : String} {path : List Char}
    (hpath : 1 < path.length) (hbefore : IsPlain before) (hafter : IsPlain after)
    (hdrive : startsWithDrive (percentEncode inSpecialSegment before.toList ++ ['/']) = false)
    (h : ¬IsPlain segment) :
    ∃ names, [before, segment, after].foldl (pushSegment .special) path = path ++ joined names ∧
      (∀ name ∈ names, '/' ∉ name) ∧
      names.map percentDecode ≠ [before, segment, after].map encode := by
  have hslash : ∀ s, '/' ∉ percentEncode inSpecialSegment s :=
    not_mem_percentEncode (by decide) (by decide) (by decide)
  rw [List.foldl_cons, pushSegment_of_plain (by omega) hbefore]
  generalize hname : percentEncode inSpecialSegment before.toList = name at hdrive ⊢
  have hslash' : '/' ∉ name := hname ▸ hslash _
  have hend : ∀ front : List Char, 1 < front.length →
      [after].foldl (pushSegment .special) front =
        front ++ '/' :: percentEncode inSpecialSegment after.toList :=
    fun front hfront => pushSegment_of_plain (by omega) hafter
  rw [List.foldl_cons]
  obtain hpush | hpush | ⟨text, htext, hpush⟩ := pushSegment_of_not_plain hpath hslash' hdrive h
  · refine ⟨[name, percentEncode inSpecialSegment after.toList], ?_, ?_, ?_⟩
    · rw [hpush, hend _ (by simp; omega)]
      simp [joined]
    · simp [hslash, hslash']
    · simp
  · refine ⟨[[], percentEncode inSpecialSegment after.toList], ?_, ?_, ?_⟩
    · rw [hpush, hend _ (by simp; omega)]
      simp [joined]
    · simp [hslash]
    · simp
  · refine ⟨[name, percentEncode inSpecialSegment text,
      percentEncode inSpecialSegment after.toList], ?_, ?_, ?_⟩
    · rw [hpush, hend _ (by simp; omega)]
      simp [joined]
    · simp [hslash, hslash']
    · intro heq
      have hmiddle := (List.cons.inj (List.cons.inj heq).2).1
      rw [percentDecode_percentEncode (by decide), Text.encode_eq_flatMap] at hmiddle
      exact htext (Text.flatMap_encodeChar_inj hmiddle)

end FeedReader.Url
