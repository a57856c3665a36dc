import Mathlib.Data.List.Forall2
import VisualNovel.Datum.Decode
import VisualNovel.Proofs.EventTable.Load

namespace VisualNovel.Datum

/-- A text, or a single letter in place of one. -/
inductive IsText : Datum → String → Prop
  | text (value : String) : IsText (.text value) value
  | letter (c : Char) : IsText (.letter c) c.toString

/-- An integer that is written in some base and fits into 32 bits. -/
inductive IsCount : Datum → UInt32 → Prop
  | number {written : String} {count : UInt32}
      (h : Integer.read written = some (count.toNat : Int)) : IsCount (.number written) count

inductive IsTruth : Datum → Bool → Prop
  | truth (value : Bool) : IsTruth (.truth value) value

section Option

variable {α : Type} {decode : Datum → Option α} {Says : Datum → α → Prop}

/-- Nothing, a value without content, or `Some` of a value that says something. -/
inductive IsOption (Says : Datum → α → Prop) : Datum → Option α → Prop
  | absent : IsOption Says .absent none
  | unit : IsOption Says .unit none
  | word (name : String) : IsOption Says (.word name) none
  | present {payload : Datum} {value : α} (h : Says payload value) :
      IsOption Says (.present payload) (some value)

theorem looseOption?_eq_some_iff
    (hdecode : ∀ datum value, decode datum = some value ↔ Says datum value)
    {datum : Datum} {value : Option α} :
    datum.looseOption? decode = some value ↔ IsOption Says datum value := by
  constructor
  · intro h
    cases datum with
    | absent =>
        cases h
        exact .absent
    | unit =>
        cases h
        exact .unit
    | word name =>
        cases h
        exact .word name
    | present payload =>
        obtain ⟨content, hcontent, rfl⟩ := Option.map_eq_some_iff.mp h
        exact .present ((hdecode payload content).mp hcontent)
    | _ => cases h
  · rintro (_ | _ | _ | hpayload)
    · rfl
    · rfl
    · rfl
    · exact Option.map_eq_some_iff.mpr ⟨_, (hdecode _ _).mpr hpayload, rfl⟩

end Option

theorem looseText?_eq_some_iff {datum : Datum} {text : String} :
    datum.looseText? = some text ↔ IsText datum text := by
  constructor
  · intro h
    cases datum with
    | text value =>
        cases h
        exact .text _
    | letter c =>
        cases h
        exact .letter c
    | _ => cases h
  · rintro (_ | _) <;> rfl

theorem looseTruth?_eq_some_iff {datum : Datum} {truth : Bool} :
    datum.looseTruth? = some truth ↔ IsTruth datum truth := by
  constructor
  · intro h
    cases datum with
    | truth value =>
        cases h
        exact .truth _
    | _ => cases h
  · rintro ⟨⟩
    rfl

theorem looseCount?_eq_some_iff {datum : Datum} {count : UInt32} :
    datum.looseCount? = some count ↔ IsCount datum count := by
  constructor
  · intro h
    cases datum with
    | number written =>
        obtain ⟨n, hn, rfl⟩ := Option.map_eq_some_iff.mp h
        obtain ⟨hread, hrange⟩ := Option.filter_eq_some_iff.mp hn
        obtain ⟨hpos, hsize⟩ := of_decide_eq_true hrange
        refine .number ?_
        rw [hread, Nat.toUInt32_eq, UInt32.toNat_ofNat_of_lt' hsize, Int.toNat_of_nonneg hpos]
    | _ => cases h
  · rintro ⟨hread⟩
    have hrange : (0 : Int) ≤ count.toNat ∧ (count.toNat : Int).toNat < UInt32.size :=
      ⟨Int.natCast_nonneg _, count.toNat_lt⟩
    rw [looseCount?, hread, Option.filter_some, if_pos (decide_eq_true hrange), Option.map_some]
    simp

section Fields

variable {names : List String} {datum : Datum} {fields : List (String × Datum)}

/-- A value that is given as named fields: a record, whatever its own name is, or a table whose keys
are texts. -/
inductive NamedFields : Datum → List (String × Datum) → Prop
  | record (name : Option String) (fields : List (String × Datum)) :
      NamedFields (.record name fields) fields
  | table {entries : List (Datum × Datum)} {fields : List (String × Datum)}
      (h : List.Forall₂ (fun entry field => IsText entry.1 field.1 ∧ entry.2 = field.2)
        entries fields) : NamedFields (.table entries) fields

/-- The parts of a value under their names, which are given or are those of their places. -/
inductive Parts (names : List String) : Datum → List (String × Datum) → Prop
  | named {datum : Datum} {fields : List (String × Datum)} (h : NamedFields datum fields) :
      Parts names datum fields
  | list {items : List Datum} (h : items.length ≤ names.length) :
      Parts names (.list items) (names.zip items)
  | tuple {name : Option String} {items : List Datum} (h : items.length ≤ names.length) :
      Parts names (.tuple name items) (names.zip items)

/-- What the last field of a name says, or the default where no field has the name. -/
inductive Gives {α : Type} (fields : List (String × Datum)) (name : String) (default : Option α)
    (Says : Datum → α → Prop) (value : α) : Prop
  | given {datum : Datum} (hlast : IsLastWith Prod.fst fields (name, datum))
      (hvalue : Says datum value)
  | missing (hnone : ∀ field ∈ fields, field.1 ≠ name) (hdefault : default = some value)

theorem mapM_key_eq_some_iff {entries : List (Datum × Datum)} :
    (entries.mapM fun (key, value) => do return (← key.looseText?, value)) = some fields ↔
      List.Forall₂ (fun entry field => IsText entry.1 field.1 ∧ entry.2 = field.2)
        entries fields := by
  induction entries generalizing fields with
  | nil => simp [eq_comm]
  | cons entry entries ih =>
      obtain ⟨key, value⟩ := entry
      rw [List.mapM_cons, List.forall₂_cons_left_iff]
      constructor
      · intro h
        obtain ⟨field, hfield, h⟩ := Option.bind_eq_some_iff.mp h
        obtain ⟨rest, hrest, h⟩ := Option.bind_eq_some_iff.mp h
        obtain ⟨text, htext, hfield⟩ := Option.bind_eq_some_iff.mp hfield
        cases hfield
        cases h
        exact ⟨_, rest, ⟨looseText?_eq_some_iff.mp htext, rfl⟩, ih.mp hrest, rfl⟩
      · rintro ⟨⟨text, _⟩, rest, ⟨htext, rfl⟩, hrest, rfl⟩
        have hkey : key.looseText? = some text := looseText?_eq_some_iff.mpr htext
        simp only [hkey, ih.mpr hrest]
        rfl

theorem lookup_reverse_eq_some_iff {name : String} :
    fields.reverse.lookup name = some datum ↔ IsLastWith Prod.fst fields (name, datum) := by
  rw [List.lookup_eq_some_iff]
  simp only [bne_iff_ne]
  constructor
  · rintro ⟨after, before, hfields, hafter⟩
    refine ⟨before.reverse, after.reverse, ?_, ?_⟩
    · simpa using congrArg List.reverse hfields
    · intro field hfield
      exact (hafter field (List.mem_reverse.mp hfield)).symm
  · rintro ⟨before, after, rfl, hafter⟩
    refine ⟨after.reverse, before.reverse, by simp, ?_⟩
    intro field hfield
    exact (hafter field (List.mem_reverse.mp hfield)).symm

theorem lookup_reverse_eq_none_iff {name : String} :
    fields.reverse.lookup name = none ↔ ∀ field ∈ fields, field.1 ≠ name := by
  simp only [List.lookup_eq_none_iff, List.mem_reverse, bne_iff_ne, ne_comm]

theorem lookup_reverse_of_nodup (h : (fields.map Prod.fst).Nodup) (name : String) :
    fields.reverse.lookup name = fields.lookup name := by
  induction fields with
  | nil => rfl
  | cons field fields ih =>
      obtain ⟨key, datum⟩ := field
      obtain ⟨hkey, hfields⟩ := List.nodup_cons.mp h
      rw [List.reverse_cons, List.lookup_append, ih hfields]
      by_cases hname : name = key
      · subst hname
        have hnone : fields.lookup name = none := by
          rw [List.lookup_eq_none_iff]
          intro other hother
          rw [bne_iff_ne]
          intro hsame
          exact hkey (List.mem_map.mpr ⟨other, hother, hsame.symm⟩)
        simp [hnone]
      · simp [List.lookup_cons, beq_eq_false_iff_ne.mpr hname]

theorem nodup_fst_zip (hnames : names.Nodup) (items : List Datum) :
    ((names.zip items).map Prod.fst).Nodup := by
  rw [List.zip_eq_zip_take_min, List.map_fst_zip (by simp)]
  exact hnames.sublist (List.take_sublist _ _)

section Gives

variable {α : Type} {Says : Datum → α → Prop} {name : String} {default : Option α} {value : α}

theorem gives_iff_lookup : Gives fields name default Says value ↔
    (∃ datum, fields.reverse.lookup name = some datum ∧ Says datum value) ∨
    fields.reverse.lookup name = none ∧ default = some value := by
  simp only [lookup_reverse_eq_some_iff, lookup_reverse_eq_none_iff]
  constructor
  · rintro (⟨hlast, hvalue⟩ | ⟨hnone, hdefault⟩)
    · exact .inl ⟨_, hlast, hvalue⟩
    · exact .inr ⟨hnone, hdefault⟩
  · rintro (⟨datum, hlast, hvalue⟩ | ⟨hnone, hdefault⟩)
    · exact .given hlast hvalue
    · exact .missing hnone hdefault

theorem looseFieldOr?_eq_some_iff {decode : Datum → Option α}
    (hdecode : ∀ datum value, decode datum = some value ↔ Says datum value) :
    looseFieldOr? fields.reverse name default decode = some value ↔
      Gives fields name default Says value := by
  rw [gives_iff_lookup, looseFieldOr?]
  cases fields.reverse.lookup name with
  | none => simp
  | some datum => simp [hdecode]

theorem exists_gives_none_iff : (∃ value, Gives fields name none Says value) ↔
    ∃ datum value, IsLastWith Prod.fst fields (name, datum) ∧ Says datum value := by
  simp only [gives_iff_lookup, ← lookup_reverse_eq_some_iff]
  simp only [reduceCtorEq, and_false, or_false]
  exact exists_comm

theorem exists_gives_some_iff (default : α) :
    (∃ value, Gives fields name (some default) Says value) ↔
    ∀ datum, IsLastWith Prod.fst fields (name, datum) → ∃ value, Says datum value := by
  simp only [gives_iff_lookup, ← lookup_reverse_eq_some_iff]
  cases fields.reverse.lookup name with
  | none => simp
  | some datum => simp

theorem gives_congr {others : List (String × Datum)}
    (h : ∀ datum, IsLastWith Prod.fst others (name, datum) ↔
      IsLastWith Prod.fst fields (name, datum)) :
    Gives others name default Says value ↔ Gives fields name default Says value := by
  have hlookup : others.reverse.lookup name = fields.reverse.lookup name := by
    apply Option.ext
    intro datum
    rw [lookup_reverse_eq_some_iff, lookup_reverse_eq_some_iff, h]
  rw [gives_iff_lookup, gives_iff_lookup, hlookup]

end Gives

end Fields

section Record

variable {α : Type} {names : List String} {datum : Datum} {value : α}
  {SaidBy : List (String × Datum) → α → Prop}

/-- The value has parts that say something together. -/
def IsRecord (names : List String) (SaidBy : List (String × Datum) → α → Prop) (datum : Datum)
    (value : α) : Prop :=
  ∃ fields, Parts names datum fields ∧ SaidBy fields value

theorem NamedFields.eq {fields others : List (String × Datum)} (h : NamedFields datum fields)
    (hothers : NamedFields datum others) : others = fields := by
  cases h with
  | record name fields =>
      cases hothers
      rfl
  | table hentries =>
      cases hothers with
      | table hsame =>
          exact Option.some.inj ((mapM_key_eq_some_iff.mpr hsame).symm.trans
            (mapM_key_eq_some_iff.mpr hentries))

theorem NamedFields.isRecord_iff {fields : List (String × Datum)} (h : NamedFields datum fields) :
    IsRecord names SaidBy datum value ↔ SaidBy fields value := by
  constructor
  · rintro ⟨others, hparts, hsaid⟩
    cases hparts with
    | named hothers => exact h.eq hothers ▸ hsaid
    | list | tuple => cases h
  · exact fun hsaid => ⟨fields, .named h, hsaid⟩

theorem bind_looseFields?_eq_some_iff (hnames : names.Nodup)
    {build : List (String × Datum) → Option α}
    (hlookup : ∀ found fields : List (String × Datum),
      (∀ name, found.lookup name = fields.lookup name) → build found = build fields)
    (hbuild : ∀ fields value, build fields.reverse = some value ↔ SaidBy fields value) :
    (datum.looseFields? names).bind build = some value ↔ IsRecord names SaidBy datum value := by
  -- Fields that stand in their places have each name once, so it does not matter from which end
  -- they are looked up.
  have hitems (items : List Datum) :
      build (names.zip items) = some value ↔ SaidBy (names.zip items) value := by
    rw [← hbuild, hlookup _ _ fun name =>
      (lookup_reverse_of_nodup (nodup_fst_zip hnames items) name).symm]
  rw [Option.bind_eq_some_iff]
  constructor
  · rintro ⟨found, hfound, hvalue⟩
    cases datum with
    | record name fields =>
        cases hfound
        exact ⟨fields, .named (.record name fields), (hbuild fields value).mp hvalue⟩
    | table entries =>
        obtain ⟨fields, hfields, hfound⟩ := Option.bind_eq_some_iff.mp hfound
        cases hfound
        exact ⟨fields, .named (.table (mapM_key_eq_some_iff.mp hfields)),
          (hbuild fields value).mp hvalue⟩
    | list items =>
        obtain ⟨hlength, hfound⟩ := Option.ite_none_right_eq_some.mp hfound
        cases hfound
        exact ⟨_, .list hlength, (hitems items).mp hvalue⟩
    | tuple name items =>
        obtain ⟨hlength, hfound⟩ := Option.ite_none_right_eq_some.mp hfound
        cases hfound
        exact ⟨_, .tuple hlength, (hitems items).mp hvalue⟩
    | _ => cases hfound
  · rintro ⟨fields, hparts, hsaid⟩
    cases hparts with
    | named hnamed =>
        cases hnamed with
        | record name => exact ⟨_, rfl, (hbuild fields value).mpr hsaid⟩
        | table hentries =>
            refine ⟨fields.reverse, ?_, (hbuild fields value).mpr hsaid⟩
            rw [looseFields?, mapM_key_eq_some_iff.mpr hentries]
            rfl
    | list hlength => exact ⟨_, if_pos hlength, (hitems _).mpr hsaid⟩
    | tuple hlength => exact ⟨_, if_pos hlength, (hitems _).mpr hsaid⟩

end Record

end VisualNovel.Datum
