import Mathlib.Data.List.Basic
import FeedReader.Entry.Decode
import FeedReader.Proofs.Json.Records
import FeedReader.Proofs.Json.Texts

/-!
# Pages hold what arrives live

A record in a page is read as the same record is read by itself when it arrives live.
-/

namespace FeedReader

open Json (Bytes Draft Field Fault Filled Holds HoldsValue IsText Reader Whole EndsNumber Takes
  closeBrace closeBracket colon comma openBrace openBracket quote)

/-! ## Records are whole values -/

theorem whole_recordOf {α : Type} {fields : List Field} (make : Filled fields → α)
    (h : ∀ f ∈ fields, Whole f.read) : Whole (recordOf fields make) :=
  (Json.whole_record h).map make

theorem Wire.whole_author (name : String) : Whole (Wire.author name).read := by
  refine (whole_recordOf _ ?_).optional
  simp only [List.forall_mem_cons]
  exact ⟨Json.whole_string, Json.whole_string.optional, List.forall_mem_nil _⟩

theorem Wire.whole_time (name : String) : Whole (Wire.time name).read :=
  Json.whole_string.refine _

namespace EntryKind

theorem whole_reader (kind : EntryKind) : Whole kind.reader := by
  cases kind with
  | post =>
      refine (whole_recordOf _ ?_).map _
      simp only [List.forall_mem_cons]
      exact ⟨Json.whole_string, Json.whole_string, Wire.whole_author _, Json.whole_boolean,
        Json.whole_string.optional, Json.whole_count, Json.whole_count, Wire.whole_time _,
        List.forall_mem_nil _⟩
  | comment =>
      refine (whole_recordOf _ ?_).map _
      simp only [List.forall_mem_cons]
      exact ⟨Json.whole_string, Json.whole_string.optional, Json.whole_string, Wire.whole_author _,
        Json.whole_count, Wire.whole_time _, List.forall_mem_nil _⟩
  | notification =>
      refine (whole_recordOf _ ?_).map _
      simp only [List.forall_mem_cons]
      exact ⟨Json.whole_string, Json.whole_string.list, Json.whole_string,
        Json.whole_string.optional, Json.whole_boolean, Wire.whole_time _, List.forall_mem_nil _⟩
  | user =>
      refine (whole_recordOf _ ?_).map _
      simp only [List.forall_mem_cons]
      exact ⟨Json.whole_string, Json.whole_string, Json.whole_count, Json.whole_count,
        Json.whole_boolean, Json.whole_boolean, List.forall_mem_nil _⟩

/-! ## The text of a page -/

def pageFields (kind : EntryKind) : List Field :=
  [{ name := "items", Value := List Entry, read := Json.list kind.reader, default? := some [] },
    Wire.maybeText "startCursor", Wire.maybeText "endCursor"]

end EntryKind

def pageText (records : List Bytes) (start finish : Bytes) : Bytes :=
  Text.encode "\x7b\"items\":[" ++ [comma].intercalate records ++
    Text.encode "],\"startCursor\":" ++ start ++ Text.encode ",\"endCursor\":" ++ finish ++
      Text.encode "\x7d"

def decodeCursor (t : Bytes) : Except Fault (Option String) :=
  Json.readAll (Json.optional Json.string) t

def nameText (name : String) : Bytes := Text.encode name ++ [quote]

theorem takes_nameText {name : String}
    (h : Json.stringTail (nameText name).length.succ (nameText name) = .ok (name, [])) :
    Takes Json.stringTail (nameText name) name := by
  obtain ⟨front, hfront, htakes, -⟩ := Json.takes_stringTail h
  rw [List.append_nil] at hfront
  exact hfront ▸ htakes

theorem intercalate_append (records : List Bytes) (x : Bytes) :
    [comma].intercalate records ++ closeBracket :: x = Json.itemsText records x := by
  cases records with
  | nil => rfl
  | cons t records =>
      induction records generalizing t with
      | nil => simp [Json.itemsText, Json.moreItems]
      | cons u records ih =>
          rw [List.intercalate_cons_cons, List.append_assoc, List.append_assoc, ih u]
          rfl

/-- A page from behind its items. -/
def cursorsText (start finish : Bytes) : Bytes :=
  comma :: quote :: (nameText "startCursor" ++ colon :: (start ++
    comma :: quote :: (nameText "endCursor" ++ colon :: (finish ++ [closeBrace]))))

theorem pageText_eq (records : List Bytes) (start finish : Bytes) :
    pageText records start finish =
      openBrace :: quote :: (nameText "items" ++
        colon :: openBracket :: Json.itemsText records (cursorsText start finish)) := by
  have hitems : Text.encode "\x7b\"items\":[" =
      openBrace :: quote :: (nameText "items" ++ [colon, openBracket]) := by decide +kernel
  have hstart : Text.encode "],\"startCursor\":" =
      closeBracket :: comma :: quote :: (nameText "startCursor" ++ [colon]) := by decide +kernel
  have hfinish : Text.encode ",\"endCursor\":" =
      comma :: quote :: (nameText "endCursor" ++ [colon]) := by decide +kernel
  have hend : Text.encode "\x7d" = [closeBrace] := by decide +kernel
  rw [pageText, hitems, hstart, hfinish, hend, ← intercalate_append, cursorsText]
  simp

namespace EntryKind

variable {kind : EntryKind} {records : List Bytes} {start finish blank x : Bytes} {budget : Nat}

def draft (kind : EntryKind) (items : Option (List Entry))
    (startCursor endCursor : Option (Option String)) : Draft kind.pageFields :=
  (items, startCursor, endCursor, ())

def filled (kind : EntryKind) (items : List Entry) (startCursor endCursor : Option String) :
    Filled kind.pageFields :=
  (items, startCursor, endCursor, ())

theorem nextMember_comma (h : Json.IsBlank blank) :
    Json.nextMember false (blank ++ comma :: quote :: x) = .ok (true, x) := by
  rw [Json.nextMember, h.skipSpace_append]
  rfl

theorem members_of_name {first : Bool} {page : Draft kind.pageFields} {s : Bytes} {name : String}
    (hname : Takes Json.stringTail (nameText name) name)
    (hnext : Json.nextMember first s = .ok (true, nameText name ++ colon :: x))
    (hbudget : (nameText name ++ colon :: x).length < budget) :
    Json.members kind.pageFields first page (budget + 1) s =
      (Json.readMember name kind.pageFields page budget (colon :: x)).bind fun member =>
        Json.members kind.pageFields false member.1 budget member.2 := by
  rw [Json.members_succ, hnext]
  simp only [Except.bind, if_true]
  rw [hname _ _ hbudget]

theorem members_items
    (hbudget : (nameText "items" ++ colon :: x).length < budget) :
    Json.members kind.pageFields true (Draft.blank _) (budget + 1)
        (quote :: (nameText "items" ++ colon :: x)) =
      (Json.list kind.reader budget x).bind fun r =>
        Json.members kind.pageFields false (kind.draft (some r.1) none none) budget r.2 := by
  rw [members_of_name (takes_nameText (by decide +kernel)) rfl hbudget]
  change ((Json.list kind.reader budget x).map _).bind _ = _
  cases Json.list kind.reader budget x <;> rfl

theorem members_startCursor (items : List Entry)
    (hbudget : (nameText "startCursor" ++ colon :: x).length < budget) :
    Json.members kind.pageFields false (kind.draft (some items) none none) (budget + 1)
        (comma :: quote :: (nameText "startCursor" ++ colon :: x)) =
      (Json.optional Json.string budget x).bind fun r =>
        Json.members kind.pageFields false (kind.draft (some items) (some r.1) none) budget
          r.2 := by
  rw [members_of_name (takes_nameText (by decide +kernel)) rfl hbudget]
  change (((Json.optional Json.string budget x).map _).map _).bind _ = _
  cases Json.optional Json.string budget x <;> rfl

theorem members_endCursor (hblank : Json.IsBlank blank) (items : List Entry)
    (startCursor : Option String)
    (hbudget : (nameText "endCursor" ++ colon :: x).length < budget) :
    Json.members kind.pageFields false (kind.draft (some items) (some startCursor) none)
        (budget + 1) (blank ++ comma :: quote :: (nameText "endCursor" ++ colon :: x)) =
      (Json.optional Json.string budget x).bind fun r =>
        Json.members kind.pageFields false (kind.draft (some items) (some startCursor) (some r.1))
          budget r.2 := by
  rw [members_of_name (takes_nameText (by decide +kernel)) (nextMember_comma hblank) hbudget]
  change ((((Json.optional Json.string budget x).map _).map _).map _).bind _ = _
  cases Json.optional Json.string budget x <;> rfl

theorem members_end (hblank : Json.IsBlank blank) (items : List Entry)
    (startCursor endCursor : Option String) :
    Json.members kind.pageFields false (kind.draft (some items) (some startCursor) (some endCursor))
        (budget + 1) (blank ++ [closeBrace]) =
      .ok (kind.filled items startCursor endCursor, []) := by
  have hnext : Json.nextMember false (blank ++ [closeBrace]) = .ok (false, []) := by
    rw [Json.nextMember, hblank.skipSpace_append]
    rfl
  rw [Json.members_succ, hnext]
  rfl

theorem members_cursorsText (hstart : HoldsValue start) (hfinish : HoldsValue finish)
    (items : List Entry) (hbudget : (cursorsText start finish).length < budget)
    {r : Filled kind.pageFields × Bytes} :
    Json.members kind.pageFields false (kind.draft (some items) none none) budget
        (cursorsText start finish) = .ok r ↔
      ∃ startCursor, decodeCursor start = .ok startCursor ∧
        ∃ endCursor, decodeCursor finish = .ok endCursor ∧
          (kind.filled items startCursor endCursor, []) = r := by
  have hcursor : Whole (Json.optional Json.string) := Json.whole_string.optional
  obtain ⟨_, after, hstart⟩ := hstart
  obtain ⟨_, after', hfinish⟩ := hfinish
  simp only [cursorsText, List.length_append, List.length_cons, List.length_nil] at hbudget
  obtain ⟨budget, rfl⟩ : ∃ k, budget = k + 3 := ⟨budget - 3, by omega⟩
  have hlength := hstart.length_le
  rw [cursorsText, members_startCursor items (by simp; omega),
    hstart.bind_eq_ok_iff hcursor (hstart.front _) (Json.endsNumber_cons rfl) (by simp; omega)
      fun _ _ hr => Json.endsNumber_of_members hr]
  refine exists_congr fun startCursor => and_congr_right fun _ => ?_
  rw [members_endCursor hstart.blank items startCursor (by simp; omega),
    hfinish.bind_eq_ok_iff hcursor (hfinish.front _) (Json.endsNumber_cons rfl) (by simp; omega)
      fun _ _ hr => Json.endsNumber_of_members hr]
  simp only [members_end hfinish.blank, Except.ok.injEq]
  rfl

theorem decodePage_eq_ok_iff (hrecords : ∀ t ∈ records, HoldsValue t) (hstart : HoldsValue start)
    (hfinish : HoldsValue finish) {page : Page Entry} :
    kind.decodePage (pageText records start finish) = .ok page ↔
      records.map kind.decode = page.items.map .ok ∧
        decodeCursor start = .ok page.startCursor ∧
        decodeCursor finish = .ok page.endCursor := by
  have hrecord : ∀ r, Json.record kind.pageFields ((pageText records start finish).length + 1)
      (pageText records start finish) = .ok r ↔
        ∃ items, records.map kind.decode = items.map .ok ∧
          ∃ startCursor, decodeCursor start = .ok startCursor ∧
            ∃ endCursor, decodeCursor finish = .ok endCursor ∧
              (kind.filled items startCursor endCursor, []) = r := by
    intro r
    have hlength := Json.length_lt_itemsText records (cursorsText start finish)
    rw [pageText_eq]
    change Json.members kind.pageFields true (Draft.blank _) (_ + 1)
      (quote :: (nameText "items" ++ _)) = _ ↔ _
    rw [members_items (by simp only [List.length_append, List.length_cons]; omega),
      Json.list_bind_eq_ok_iff kind.whole_reader hrecords (by simp; omega)]
    refine exists_congr fun items => and_congr_right fun _ => ?_
    exact members_cursorsText hstart hfinish items (by simp; omega)
  constructor
  · intro hpage
    obtain ⟨rest, hread, -⟩ := Json.readAll_eq_ok hpage
    obtain ⟨r, hr, hpage'⟩ := ok_of_map hread
    obtain ⟨items, hitems, startCursor, hs, endCursor, hf, rfl⟩ := (hrecord r).mp hr
    cases hpage'
    exact ⟨hitems, hs, hf⟩
  · rintro ⟨hitems, hs, hf⟩
    have hread := (hrecord _).mpr ⟨_, hitems, _, hs, _, hf, rfl⟩
    have hpage : kind.pageReader ((pageText records start finish).length + 1)
        (pageText records start finish) = .ok (page, []) := by
      change (Json.record kind.pageFields _ _).map _ = _
      rw [hread]
      rfl
    simp [decodePage, Json.readAll, hpage, bind, Except.bind, Json.skipSpace, pure, Except.pure]

/--
A page is read if and only if each of its records is read by itself, and then it holds these, in
order, and its cursors.
-/
theorem decodePage_pageText (kind : EntryKind) {records : List Bytes}
    (hrecords : ∀ t ∈ records, IsText t) {start finish : Bytes}
    {startCursor endCursor : Option String}
    (hstart : decodeCursor start = .ok startCursor)
    (hfinish : decodeCursor finish = .ok endCursor) :
    ((∃ page, kind.decodePage (pageText records start finish) = .ok page) ↔
      ∀ t ∈ records, ∃ entry, kind.decode t = .ok entry) ∧
    ∀ page, kind.decodePage (pageText records start finish) = .ok page →
      records.map kind.decode = page.items.map .ok ∧
        page.startCursor = startCursor ∧ page.endCursor = endCursor := by
  have hcursor : Whole (Json.optional Json.string) := Json.whole_string.optional
  have hpage : ∀ page, kind.decodePage (pageText records start finish) = .ok page ↔
      records.map kind.decode = page.items.map .ok ∧
        startCursor = page.startCursor ∧ endCursor = page.endCursor := by
    intro page
    rw [decodePage_eq_ok_iff (fun t ht => (hrecords t ht).holdsValue)
      (hcursor.holdsValue hstart) (hcursor.holdsValue hfinish), hstart, hfinish, Except.ok.injEq,
      Except.ok.injEq]
  refine ⟨?_, fun page h => ?_⟩
  · rw [← exists_map_ok_iff]
    constructor
    · rintro ⟨page, h⟩
      exact ⟨page.items, ((hpage page).mp h).1⟩
    · rintro ⟨items, hitems⟩
      exact ⟨{ items, startCursor, endCursor }, (hpage _).mpr ⟨hitems, rfl, rfl⟩⟩
  · obtain ⟨hitems, rfl, rfl⟩ := (hpage page).mp h
    exact ⟨hitems, rfl, rfl⟩

theorem decodePage_of_two_users :
    ∃ page, EntryKind.user.decodePage (pageText
        [Text.encode "[\"7\",\"ada\"]",
          Text.encode "\x7b\"username\":\"bob\",\"id\":\"8\"\x7d"]
        (Text.encode "null") (Text.encode "\"c\"")) = .ok page ∧
      page.items =
        [.user { id := "7", username := "ada" }, .user { id := "8", username := "bob" }] ∧
      page.startCursor = none ∧ page.endCursor = some "c" := by
  have hstring : ∀ s : Bytes, s.all Json.isPlain = true →
      Json.Written .padded (quote :: (s ++ [quote])) :=
    fun s hs => (Json.Written.string (.of_plain hs)).alone
  have hmember : ∀ name s : Bytes, name.all Json.isPlain = true → s.all Json.isPlain = true →
      Json.Written .member (quote :: (name ++ [quote] ++ colon :: quote :: (s ++ [quote]))) :=
    fun name s hname hs => @Json.Written.member [] (name ++ [quote]) [] _ (List.forall_mem_nil _)
      (.of_plain hname) (List.forall_mem_nil _) (hstring s hs)
  have hlist : IsText (Text.encode "[\"7\",\"ada\"]") := by
    have htext : Text.encode "[\"7\",\"ada\"]" =
        openBracket :: (quote :: (Text.encode "7" ++ [quote]) ++
          comma :: (quote :: (Text.encode "ada" ++ [quote]) ++ [closeBracket])) := by decide +kernel
    rw [htext]
    exact (Json.Written.list (.item (hstring _ (by decide +kernel))
      (.lastItem (hstring _ (by decide +kernel))))).alone
  have hobject : IsText (Text.encode "\x7b\"username\":\"bob\",\"id\":\"8\"\x7d") := by
    have htext : Text.encode "\x7b\"username\":\"bob\",\"id\":\"8\"\x7d" =
        openBrace :: (quote :: (Text.encode "username" ++ [quote] ++
            colon :: quote :: (Text.encode "bob" ++ [quote])) ++
          comma :: (quote :: (Text.encode "id" ++ [quote] ++
            colon :: quote :: (Text.encode "8" ++ [quote])) ++ [closeBrace])) := by decide +kernel
    rw [htext]
    exact (Json.Written.object (.nextMember (hmember _ _ (by decide +kernel) (by decide +kernel))
      (.lastMember (hmember _ _ (by decide +kernel) (by decide +kernel))))).alone
  have hada : EntryKind.user.decode (Text.encode "[\"7\",\"ada\"]") =
      .ok (.user { id := "7", username := "ada" }) := by decide +kernel
  have hbob : EntryKind.user.decode
      (Text.encode "\x7b\"username\":\"bob\",\"id\":\"8\"\x7d") =
      .ok (.user { id := "8", username := "bob" }) := by decide +kernel
  have hnull : decodeCursor (Text.encode "null") = .ok none := by decide +kernel
  have hcursor : decodeCursor (Text.encode "\"c\"") = .ok (some "c") := by
    decide +kernel
  have hboth := decodePage_pageText .user
    (List.forall_mem_cons.mpr ⟨hlist, List.forall_mem_singleton.mpr hobject⟩) hnull hcursor
  obtain ⟨page, hpage⟩ := hboth.1.mpr
    (List.forall_mem_cons.mpr ⟨⟨_, hada⟩, List.forall_mem_singleton.mpr ⟨_, hbob⟩⟩)
  obtain ⟨hitems, hstart, hfinish⟩ := hboth.2 page hpage
  rw [List.map_cons, List.map_singleton, hada, hbob] at hitems
  refine ⟨page, hpage, ?_, hstart, hfinish⟩
  exact (List.map_inj_right fun _ _ => Except.ok.inj).mp hitems.symm

end EntryKind

end FeedReader
