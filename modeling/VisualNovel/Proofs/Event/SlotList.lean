import Mathlib.Data.Set.List
import VisualNovel.Event
import VisualNovel.Proofs.Text.Fields
import VisualNovel.Proofs.Text.Trimmed

namespace VisualNovel

/-- A name that a list of slots can hold. Blanks inside of it belong to it. -/
structure SlotName where
  text : String
  ne_empty : text ≠ ""
  trimmed : Text.Trimmed text
  unsplit : ';' ∉ text.toList

/-- What stands between two semicolons: a name, with blanks around it or not, or no name at all. -/
inductive SlotEntry
  | named (name : SlotName) (text : String) (hpadded : Text.Padded name.text text)
  | blank (text : String) (hblank : Text.AllBlank text)

namespace SlotEntry

def text : SlotEntry → String
  | .named _ text _ => text
  | .blank text _ => text

def name? : SlotEntry → Option SlotName
  | .named name _ _ => some name
  | .blank _ _ => none

end SlotEntry

/-- The list of slots with these entries. -/
def slotList (entries : List SlotEntry) : String :=
  ";".intercalate (entries.map SlotEntry.text)

/-- The names in a list of slots, in order and as often as they are written. -/
def listedNames (entries : List SlotEntry) : List String :=
  (entries.filterMap SlotEntry.name?).map SlotName.text

theorem SlotEntry.unsplit (entry : SlotEntry) : ';' ∉ entry.text.toList := by
  cases entry with
  | named name text hpadded => exact hpadded.not_mem name.unsplit (by decide)
  | blank text hblank => exact hblank.not_mem (by decide)

theorem SlotEntry.exists_text_eq {piece : String} (h : ';' ∉ piece.toList) :
    ∃ entry : SlotEntry, entry.text = piece := by
  by_cases hblank : Text.AllBlank piece
  · exact ⟨.blank piece hblank, rfl⟩
  · have hne : Text.trim piece ≠ "" := Text.trim_eq_empty_iff.not.mpr hblank
    have hunsplit : ';' ∉ (Text.trim piece).toList := fun hmem => h (Text.trim_subset piece hmem)
    have htrimmed : Text.Trimmed (Text.trim piece) := Text.trimmed_trim piece
    exact ⟨.named ⟨_, hne, htrimmed, hunsplit⟩ piece (Text.padded_trim piece), rfl⟩

/-- Every text is a list of slots. -/
theorem exists_slotList_eq (text : String) : ∃ entries, slotList entries = text := by
  have hpieces : Text.fields ';' text ∈ Set.range (List.map SlotEntry.text) := by
    rw [Set.range_list_map]
    exact fun piece hpiece => SlotEntry.exists_text_eq (Text.not_mem_of_mem_fields hpiece)
  obtain ⟨entries, hentries⟩ := hpieces
  exact ⟨entries, by rw [slotList, hentries, Text.intercalate_fields rfl]⟩

theorem fields_slotList {entries : List SlotEntry} (hne : entries ≠ []) :
    Text.fields ';' (slotList entries) = entries.map SlotEntry.text := by
  refine Text.fields_intercalate rfl ?_ (by simpa using hne)
  simpa using fun entry _ => entry.unsplit

theorem filter_trim_text (entries : List SlotEntry) :
    ((entries.map SlotEntry.text).map Text.trim).filter (· ≠ "") = listedNames entries := by
  induction entries with
  | nil => rfl
  | cons entry entries ih =>
      rw [List.map_cons, List.map_cons]
      cases entry with
      | blank text hblank =>
          have htrim : Text.trim text = "" := Text.trim_eq_empty_iff.mpr hblank
          rw [SlotEntry.text, htrim, List.filter_cons_of_neg (by simp), ih]
          rfl
      | named name text hpadded =>
          have htrim : Text.trim text = name.text :=
            Text.trim_eq_iff_padded.mpr ⟨name.trimmed, hpadded⟩
          rw [SlotEntry.text, htrim, List.filter_cons_of_pos (by simpa using name.ne_empty), ih]
          rfl

theorem slotNames_slotList (entries : List SlotEntry) :
    slotNames (slotList entries) = listedNames entries := by
  by_cases hne : entries = []
  · rw [hne]
    rfl
  · rw [slotNames, fields_slotList hne, filter_trim_text]

section Sets

variable {text slot : String}

theorem slotNames_append (left right : String) :
    slotNames (left ++ ";" ++ right) = slotNames left ++ slotNames right := by
  rw [slotNames, Text.fields_append rfl, List.map_append, List.filter_append]
  rfl

theorem mem_slotSet_iff : slot ∈ slotSet text ↔ slot ∈ slotNames text := by
  rw [slotSet, Std.ExtTreeSet.mem_ofList, List.contains_iff_mem]

theorem slotSet_append (left right : String) :
    slotSet (left ++ ";" ++ right) = slotSet left ∪ slotSet right := by
  refine Std.ExtTreeSet.ext_mem fun slot => ?_
  simp only [Std.ExtTreeSet.mem_union_iff, mem_slotSet_iff, slotNames_append, List.mem_append]

theorem mem_slotSet_slotList_iff {entries : List SlotEntry} :
    slot ∈ slotSet (slotList entries) ↔ slot ∈ listedNames entries := by
  rw [mem_slotSet_iff, slotNames_slotList]

theorem mem_listedNames_iff {entries : List SlotEntry} :
    slot ∈ listedNames entries ↔
      ∃ name : SlotName, name.text = slot ∧ ∃ entry ∈ entries, entry.name? = some name := by
  simp [listedNames, and_comm]

end Sets

theorem Event.isOfferable_iff {event : Event} {moment : Moment} :
    event.isOfferable moment = true ↔
      (event.active = true ∧ event.completionCount = 0 ∧ event.inWindow moment.date = true) ∧
      moment.slot ∈ event.slots := by
  simp [Event.isOfferable, and_assoc]

/-- A list of slots holds the names that are written in it, in whatever order, however often and with
whatever blanks; a semicolon between two lists unites them. Every text is such a list, and an event
is offered at the slots that the list in its row names, as far as nothing else keeps it back. -/
theorem slot_lists_are_free_unions :
    (∀ left right, slotSet (left ++ ";" ++ right) = slotSet left ∪ slotSet right) ∧
    (∀ text slot, slot ∈ slotSet text →
      slot ≠ "" ∧ Text.Trimmed slot ∧ ';' ∉ slot.toList) ∧
    (∀ entries slot, slot ∈ slotSet (slotList entries) ↔ slot ∈ listedNames entries) ∧
    (∀ text, ∃ entries, slotList entries = text) ∧
    ∀ table row progress moment entries, row.slots = slotList entries →
      (((Event.ofRow table row).withProgress progress).isOfferable moment = true ↔
        (progress.active = true ∧ progress.completionCount = 0 ∧
          (Event.ofRow table row).inWindow moment.date = true) ∧
        moment.slot ∈ listedNames entries) := by
  refine ⟨slotSet_append, ?_, fun _ _ => mem_slotSet_slotList_iff, exists_slotList_eq, ?_⟩
  · intro text slot hslot
    obtain ⟨entries, rfl⟩ := exists_slotList_eq text
    obtain ⟨name, rfl, -⟩ := mem_listedNames_iff.mp (mem_slotSet_slotList_iff.mp hslot)
    exact ⟨name.ne_empty, name.trimmed, name.unsplit⟩
  · intro table row progress moment entries hrow
    have hslots : moment.slot ∈ slotSet row.slots ↔ moment.slot ∈ listedNames entries := by
      rw [hrow, mem_slotSet_slotList_iff]
    exact Event.isOfferable_iff.trans (and_congr_right fun _ => hslots)

/-- Two names, the first of them twice, with blanks around, inside and alone, and nothing behind the
last semicolon. -/
def crookedList : List SlotEntry :=
  let morning : SlotName := ⟨"朝", by decide, by decide, by decide⟩
  let evening : SlotName := ⟨"夕 べ", by decide, by decide, by decide⟩
  [.named morning _ (@Text.Padded.layout _ " " "\u3000" (by decide) (by decide)),
    .named evening _ (Text.padded_self _), .blank "\t" (by decide),
    .named morning _ (Text.padded_self _), .blank "" (by decide)]

def crookedRow : CatalogRow :=
  { id := "lake", start := "4 1 朝", stop := "4 30 夜", slots := " 朝\u3000;夕 べ;\t;朝;"
    heroine := "Mio", location := "lake", title := "By the lake" }

theorem crookedRow_lists_morning_and_evening :
    slotSet (" 朝\u3000;夕 べ" ++ ";" ++ "\t;朝;") = slotSet " 朝\u3000;夕 べ" ∪ slotSet "\t;朝;" ∧
    ("夕 べ" ∈ slotSet crookedRow.slots ∧ "夕 べ" ≠ "" ∧ Text.Trimmed "夕 べ" ∧
      ';' ∉ "夕 べ".toList) ∧
    crookedRow.slots = slotList crookedList ∧ listedNames crookedList = ["朝", "夕 べ", "朝"] ∧
    (Event.ofRow .standard crookedRow).isOfferable ⟨⟨1, 4, 10⟩, "夕 べ"⟩ = true ∧
    ¬ (Event.ofRow .standard crookedRow).isOfferable ⟨⟨1, 4, 10⟩, "夕"⟩ = true := by
  obtain ⟨hunion, hnames, hlisted, -, hoffers⟩ := slot_lists_are_free_unions
  have hlist : crookedRow.slots = slotList crookedList := by decide
  have hwritten : listedNames crookedList = ["朝", "夕 べ", "朝"] := by decide
  have hmem : "夕 べ" ∈ slotSet crookedRow.slots := by
    rw [hlist, hlisted, hwritten]
    decide
  have hoffer := hoffers .standard crookedRow (.fresh "lake") ⟨⟨1, 4, 10⟩, "夕 べ"⟩ _ hlist
  have hrefusal := hoffers .standard crookedRow (.fresh "lake") ⟨⟨1, 4, 10⟩, "夕"⟩ _ hlist
  rw [hwritten] at hoffer hrefusal
  exact ⟨hunion _ _, ⟨hmem, hnames _ _ hmem⟩, hlist, hwritten, hoffer.mpr (by decide +kernel),
    fun hoffered => absurd (hrefusal.mp hoffered).2 (by decide)⟩

end VisualNovel
