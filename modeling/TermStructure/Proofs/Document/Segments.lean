import TermStructure.Proofs.Document.Records
import TermStructure.Proofs.Document.Restored
import TermStructure.Proofs.Table.Building

/-!
# Segments in documents

`Decode.segments` reads the segments that a document lists, without a look at their bounds. A document
that lists segments gives the entries of a table in the way a builder does that holds them: the reader
stops at the first segment whose bounds are not in order (`Decode.entries_of_segments`). Any segments
are listed by the document that is written for them, if their values are read back
(`Encode.parse_segments`).
-/

namespace TermStructure

variable {α β ε : Type} {V : Type}

namespace Decode

/-- The record of an entry. -/
def entryFields (r : Reader V) : Fields (EntryParts V) :=
  ⟨"EntryDocument", [startField, stopField, valueField r], false⟩

/-- The segment of the fields that have been read. -/
def EntryParts.segment (p : EntryParts V) : Decoded (Segment V) :=
  (required "start" p.start).bind fun start =>
    (required "value" p.value).map fun value => ⟨start, p.stop, value⟩

/-- A segment with a value of some kind. -/
def segment (r : Reader V) : Reader (Segment V) :=
  fun format t => ((entryFields r).read {} format t).bind EntryParts.segment

/-- The record of a table, whose only field is read by `r`. -/
def listing (record : String) (r : Reader α) : Fields (Option α) :=
  ⟨record, [field "entries" false r fun a _ => some a], false⟩

/-- The segments of a table, in the order of the document. -/
def segments (r : Reader V) : Reader (List (Segment V)) :=
  fun format t =>
    ((listing "TableDocument" (sequence (segment r))).read none format t).bind (required "entries")

/-! ## Checks after reading -/

section Listing

variable {format : DocumentFormat} {ending : Ending} {record record' : String} {r : Reader α}
  {r' : Reader β} {fault : ε → DataFault} {f : α → Except ε β}

theorem member_listing (seen : List String) (s : Option α) (name : String) (t : Tree) :
    (listing record r).member format seen s name t =
      if name = "entries" then
        if "entries" ∈ seen then .error (.data (.duplicateField "entries"))
        else (r format t).map some
      else if t.wellFormed then .ok s else .error .malformed := by
  by_cases hname : name = "entries"
  · subst hname
    simp [Fields.member, listing, field]
  · have hname' : ("entries" == name) = false := by simpa using Ne.symm hname
    simp [Fields.member, listing, field, hname, hname']

/-- Once the field has been read, the rest of the record changes nothing. -/
theorem members_listing_of_seen (record' : String) (r' : Reader β) {seen : List String}
    (hseen : "entries" ∈ seen) {s s₁ : Option α} {members : List (Key × Tree)}
    (h : (listing record r).members format ending seen s members = .ok s₁) :
    s₁ = s ∧ ∀ s' : Option β,
      (listing record' r').members format ending seen s' members = .ok s' := by
  induction members generalizing seen with
  | nil =>
    simp only [Fields.members] at h ⊢
    split at h
    next hclosed => exact ⟨(Except.ok.inj h).symm, fun s' => if_pos hclosed⟩
    · simp at h
  | cons m members ih =>
    obtain ⟨_ | name, t⟩ := m
    · simp [Fields.members] at h
    · simp only [Fields.members, member_listing, hseen, if_true] at h ⊢
      by_cases hname : name = "entries"
      · simp [hname] at h
      · by_cases ht : t.wellFormed = true
        · simp only [hname, ht, if_true, if_false] at h ⊢
          exact ih (List.mem_cons_of_mem name hseen) h
        · simp [hname, ht] at h

/-- A record whose field is checked after reading is read and then checked. -/
theorem members_listing (hr : ∀ t a, r format t = .ok a → r' format t = check fault (f a))
    {seen : List String} (hseen : "entries" ∉ seen) {a : α} {members : List (Key × Tree)}
    (h : (listing record r).members format ending seen none members = .ok (some a)) :
    (listing record' r').members format ending seen none members =
      (check fault (f a)).map some := by
  induction members generalizing seen with
  | nil =>
    simp only [Fields.members] at h
    split at h <;> simp at h
  | cons m members ih =>
    obtain ⟨_ | name, t⟩ := m
    · simp [Fields.members] at h
    · simp only [Fields.members, member_listing, hseen, if_false] at h ⊢
      by_cases hname : name = "entries"
      · simp only [hname, if_true] at h ⊢
        cases ha' : r format t with
        | error e => simp [ha', Except.map] at h
        | ok a' =>
          rw [ha'] at h
          -- The value is fixed from here on; what follows only has to be well formed.
          have hrest := members_listing_of_seen record' r' List.mem_cons_self h
          obtain rfl := Option.some.inj hrest.1
          rw [hr t a ha']
          cases hcheck : check fault (f a) with
          | error e => rfl
          | ok b => exact hrest.2 (some b)
      · by_cases ht : t.wellFormed = true
        · simp only [hname, ht, if_true, if_false] at h ⊢
          exact ih (by simp [hseen, Ne.symm hname]) h
        · simp [hname, ht] at h

theorem items_listing (hr : ∀ t a, r format t = .ok a → r' format t = check fault (f a)) {a : α}
    {ts : List Tree} (h : (listing record r).items format ending 0 none (listing record r).fields ts =
      .ok (some a)) :
    (listing record' r').items format ending 0 none (listing record' r').fields ts =
      (check fault (f a)).map some := by
  cases ts with
  | nil =>
    simp only [listing, field, Fields.items] at h
    split at h <;> simp at h
  | cons t ts =>
    simp only [listing, field, Fields.items] at h ⊢
    cases ha' : r format t with
    | error e => simp [ha', Except.map] at h
    | ok a' =>
      rw [ha'] at h
      simp only [Except.map] at h
      split at h
      next hend =>
        obtain rfl := Option.some.inj (Except.ok.inj h)
        rw [hr t a' ha']
        cases hcheck : check fault (f a') with
        | error e => rfl
        | ok b => exact if_pos hend
      · simp at h

theorem read_listing (hr : ∀ t a, r format t = .ok a → r' format t = check fault (f a)) {a : α}
    {t : Tree} (h : (listing record r).read none format t = .ok (some a)) :
    (listing record' r').read none format t = (check fault (f a)).map some := by
  unfold Fields.read at h ⊢
  split at h
  · exact items_listing hr h
  · exact members_listing hr (List.not_mem_nil) h
  · simp only [mismatch] at h
    split at h <;> simp at h

end Listing

/-! ## Segments and entries -/

section Entries

variable {format : DocumentFormat} {r : Reader V} {ss : List (Segment V)} {t : Tree}

theorem entry_eq (r : Reader V) (format : DocumentFormat) (t : Tree) :
    entry r format t = (segment r format t).bind fun s => check .structural s.toEntry := by
  change ((entryFields r).read {} format t).bind _ =
    (((entryFields r).read {} format t).bind EntryParts.segment).bind _
  cases (entryFields r).read {} format t with
  | error e => rfl
  | ok p =>
    obtain ⟨_ | start, stop, _ | value⟩ := p
    · rfl
    · rfl
    · rfl
    · change (check .structural (Interval.ofBounds start stop)).bind _ =
        check .structural (Segment.toEntry ⟨start, stop, value⟩)
      rw [Segment.toEntry]
      cases Interval.ofBounds start stop <;> rfl

theorem items_entry {ts : List Tree} (h : items (segment r) format ts = .ok ss) :
    items (entry r) format ts = check .structural (Builder.entriesOf ss) := by
  induction ts generalizing ss with
  | nil =>
    obtain rfl := Except.ok.inj h
    rfl
  | cons t ts ih =>
    rw [items] at h
    cases hs : segment r format t with
    | error e => simp [hs] at h
    | ok s =>
      cases hss : items (segment r) format ts with
      | error e => simp [hs, hss] at h
      | ok rest =>
        simp only [hs, hss] at h
        obtain rfl := Except.ok.inj h
        rw [items, entry_eq, hs, ih hss, Builder.entriesOf]
        simp only [Except.bind]
        cases s.toEntry with
        | error e => rfl
        | ok e => cases Builder.entriesOf rest <;> rfl

theorem sequence_entry (h : sequence (segment r) format t = .ok ss) :
    sequence (entry r) format t = check .structural (Builder.entriesOf ss) := by
  unfold sequence at h ⊢
  split at h
  next ts ending _ =>
    cases hts : items (segment r) format ts with
    | error e => simp [hts] at h
    | ok ss' =>
      simp only [hts] at h
      split at h
      next hend =>
        obtain rfl := Except.ok.inj h
        simp only [items_entry hts]
        cases Builder.entriesOf ss' with
        | error e => rfl
        | ok es => exact if_pos hend
      · simp at h
  · simp only [mismatch] at h
    split at h <;> simp at h

/-- The entries of a document are those of the segments that it lists. -/
theorem entries_of_segments (record : String) (h : segments r format t = .ok ss) :
    entries record r format t = check .structural (Builder.entriesOf ss) := by
  obtain ⟨ss', hread, hss⟩ := Outcome.bind_eq_ok_iff.1 h
  obtain _ | ss' := ss'
  · simp [required] at hss
  · obtain rfl := Except.ok.inj hss
    have hentries : (listing record (sequence (entry r))).read none format t =
        (check .structural (Builder.entriesOf ss')).map some :=
      read_listing (fun t ss => sequence_entry) hread
    have hread' : entries record r format t =
        ((listing record (sequence (entry r))).read none format t).bind (required "entries") := rfl
    rw [hread', hentries]
    cases Builder.entriesOf ss' <;> rfl

/-- The table of a document is built from the segments that it lists. -/
theorem table_of_segments (h : segments r format t = .ok ss) :
    table r format t = check .structural (Builder.build ⟨ss⟩) := by
  rw [table, entries_of_segments _ h, Builder.build]
  cases Builder.entriesOf ss <;> rfl

end Entries

end Decode

/-! ## Written segments -/

namespace Encode

/-- A segment with a value of some kind. -/
def segment (value : V → Tree) (s : Segment V) : Tree :=
  .ofMembers (("start", tenor s.start) :: optionalMember "end" (s.stop.map tenor) ++
    [("value", value s.value)])

/-- The document that lists some segments. -/
def segments (value : V → Tree) (ss : List (Segment V)) : Tree :=
  .ofMembers [("entries", .ofItems (ss.map (segment value)))]

variable {r : Reader V} {value : V → Tree}

/-- Fields that begin with the bounds of a segment read these and go on. -/
theorem members_bounds {f : Decode.Fields (Decode.EntryParts V)} {p : Decode.EntryParts V}
    {start : Tenor} {stop : Option Tenor} {rest : List (Key × Tree)} (format : DocumentFormat)
    (hstart : f.fields.find? (·.name == "start") = some Decode.startField)
    (hstop : f.fields.find? (·.name == "end") = some Decode.stopField)
    (hrest : ∀ seen ⊆ ["end", "start"],
      f.members format .closed seen ⟨some start, stop, none⟩ rest = .ok p) :
    f.members format .closed [] {} (Json.keyed (("start", tenor start) ::
      optionalMember "end" (stop.map tenor)) ++ rest) = .ok p := by
  have hreadStart : ∀ q : Decode.EntryParts V, Decode.startField.read format (tenor start) q =
      .ok { q with start := some start } := by
    intro q
    rw [Decode.startField, Decode.read_field, decode_tenor]
    rfl
  cases stop with
  | none =>
    exact (Decode.members_cons hstart (by simp) (hreadStart _)).trans (hrest _ (by simp))
  | some stop =>
    have hreadStop : ∀ q : Decode.EntryParts V, Decode.stopField.read format (tenor stop) q =
        .ok { q with stop := some stop } := by
      intro q
      have hnullable : Decode.nullable Decode.tenor format (tenor stop) =
          (Decode.tenor format (tenor stop)).map some := rfl
      rw [Decode.stopField, Decode.read_field, hnullable, decode_tenor]
      rfl
    exact ((Decode.members_cons hstart (by simp) (hreadStart _)).trans
      (Decode.members_cons hstop (by simp) (hreadStop _))).trans (hrest _ (by simp))

theorem decode_segment {format : DocumentFormat} {s : Segment V} {u : Tree}
    (hu : r format u = .ok s.value) :
    Decode.segment r format (segment (fun _ => u) s) = .ok s := by
  obtain ⟨start, stop, v⟩ := s
  have hvalue : ∀ p : Decode.EntryParts V, (Decode.valueField r).read format u p =
      .ok { p with value := some v } := by
    intro p
    rw [Decode.valueField, Decode.read_field, hu]
    rfl
  have hread : (Decode.entryFields r).read {} format (segment (fun _ => u) ⟨start, stop, v⟩) =
      .ok ⟨some start, stop, some v⟩ := by
    rw [segment, Decode.read_ofMembers, List.map_append]
    refine members_bounds format rfl rfl fun seen hseen => ?_
    have hnew : "value" ∉ seen := fun hmem => absurd (hseen hmem) (by decide)
    exact Decode.members_cons rfl hnew (hvalue _)
  rw [Decode.segment, hread]
  rfl

/-- The bounds of a segment are read back as they are. -/
theorem bounds_readsBack (start : Tenor) (stop : Option Tenor) :
    List.Forall₂ Json.MemberReadsBack
      (("start", tenor start) :: optionalMember "end" (stop.map tenor))
      (("start", tenor start) :: optionalMember "end" (stop.map tenor)) := by
  have htenor : ∀ name t, Json.MemberReadsBack (name, tenor t) (name, tenor t) :=
    fun name t => ⟨rfl, .ofText t.text⟩
  cases stop with
  | none => exact .cons (htenor _ _) .nil
  | some stop => exact .cons (htenor _ _) (.cons (htenor _ _) .nil)

theorem restored_segment {s : Segment V} (h : Restored r value s.value) :
    Restored (Decode.segment r) (segment value) s := by
  obtain ⟨u, hread, hu⟩ := restored_iff.1 h
  have hback : Json.ReadsBack (segment value s) (segment (fun _ => u) s) :=
    .ofMembers (List.rel_append (bounds_readsBack _ _) (.cons ⟨rfl, hread⟩ .nil))
  exact restored_iff.2 ⟨_, hback, decode_segment hu⟩

/-- Segments are read back from the document that is written for them, if their values are. -/
theorem parse_segments {ss : List (Segment V)}
    (h : ∀ s ∈ ss, DocumentFormat.json.parse r (Json.compact (value s.value)) = .ok s.value) :
    DocumentFormat.json.parse (Decode.segments r) (Json.compact (segments value ss)) = .ok ss := by
  obtain ⟨u, hread, hu⟩ := restored_iff.1 (Restored.sequence fun s hs => restored_segment (h s hs))
  have hback : Json.ReadsBack (segments value ss) (.ofMembers [("entries", u)]) :=
    .ofMembers (.cons ⟨rfl, hread⟩ .nil)
  refine DocumentFormat.parse_json_eq_ok_iff.2 ⟨_, Json.readsBack_iff.1 hback, ?_⟩
  have hentries : ∀ s, (Decode.listing "TableDocument" (Decode.sequence (Decode.segment r))).read s
      .json (.ofMembers [("entries", u)]) = .ok (some ss) := by
    intro s
    rw [Decode.read_ofMembers]
    refine Decode.members_cons rfl (by simp) ?_
    rw [Decode.read_field, hu]
    rfl
  rw [Decode.segments, hentries]
  rfl

end Encode

end TermStructure
