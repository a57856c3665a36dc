import VisualNovel.Proofs.Binary64.Fields
import VisualNovel.Proofs.Command.Keywords

namespace VisualNovel.Command

structure Field where
  text : String
  solid : '_' ∉ text.toList
deriving DecidableEq

structure NameField extends Field where
  notBlank : Text.trim text ≠ ""
deriving DecidableEq

/-- The finite number that is written in a field, blanks around it left out. -/
def Field.value? (field : Field) : Option Float :=
  if Text.trim field.text = "" then none
  else (Decimal.read (Text.trim field.text)).filter Float.isFinite

/-- A number of milliseconds, or 600 of them; what does not fit into 64 bits becomes the nearest
integer that does. -/
def Field.milliseconds (field : Field) : Int64 :=
  match field.value? with
  | some number => Int64.ofIntClamp (Binary64.roundAway (Binary64.value number))
  | none => 600

def Field.place (x y : Field) : Float × Float :=
  match x.value?, y.value? with
  | some x, some y => (x, y)
  | _, _ => (0.5, 0.5)

/-- The layouts of commands. Only a zoom that stands last can be left out. -/
inductive Written
  | showCharacter (name : NameField) (x y : Field)
  | hideCharacter (name : NameField)
  | moveCharacter (x y duration : Field) (zoom : Option Field)
  | showBackground (name : NameField) (x y zoom : Field)
  | moveBackground (dx dy duration : Field) (zoom : Option Field)
  | startScroll
  | stopScroll
deriving DecidableEq

namespace Written

def keyword : Written → Keyword
  | .showCharacter .. => .characterNew
  | .hideCharacter .. => .characterHide
  | .moveCharacter .. => .move
  | .showBackground .. => .backgroundShow
  | .moveBackground .. => .backgroundMove
  | .startScroll => .scrollStart
  | .stopScroll => .scrollStop

def fields : Written → List Field
  | .showCharacter name x y => [name.toField, x, y]
  | .hideCharacter name => [name.toField]
  | .moveCharacter x y duration zoom => [x, y, duration] ++ zoom.toList
  | .showBackground name x y zoom => [name.toField, x, y, zoom]
  | .moveBackground dx dy duration zoom => [dx, dy, duration] ++ zoom.toList
  | .startScroll => []
  | .stopScroll => []

def text (written : Written) : String :=
  written.keyword.text ++ "_".intercalate (written.fields.map Field.text)

/-- Whether nothing that follows can belong to the command. -/
def IsComplete : Written → Prop
  | .moveCharacter _ _ _ zoom => zoom.isSome
  | .moveBackground _ _ _ zoom => zoom.isSome
  | .startScroll => False
  | .stopScroll => False
  | _ => True

/-- What a command says in a line of the speaker. -/
def meaning (speaker : String) : Written → Command
  | .showCharacter name x y =>
      Command.showCharacter (Text.trim name.text) (x.place y).1 (x.place y).2
  | .hideCharacter name => Command.hideCharacter (Text.trim name.text)
  | .moveCharacter x y duration zoom =>
      Command.moveCharacter (Text.trim speaker) (x.place y).1 (x.place y).2 duration.milliseconds
        ((zoom.bind Field.value?).getD 1)
  | .showBackground name x y zoom =>
      Command.showBackground (Text.trim name.text) (x.place y).1 (x.place y).2
        (zoom.value?.getD 1)
  | .moveBackground dx dy duration zoom =>
      Command.moveBackground (dx.value?.getD 0) (dy.value?.getD 0) duration.milliseconds
        ((zoom.bind Field.value?).getD 1)
  | .startScroll => Command.startScroll
  | .stopScroll => Command.stopScroll

end Written

section Reading

variable {fields : List String} {index : Nat}

theorem number?_eq {field : Field} (h : fields[index]? = some field.text) :
    number? fields index = field.value? := by
  by_cases hblank : Text.trim field.text = ""
  · -- A blank field is read like any other: as the empty text, which writes no number.
    have hread : Decimal.read "" = none := by decide
    simp [number?, h, Field.value?, hblank, hread]
  · simp [number?, h, Field.value?, hblank]

theorem name?_eq {name : NameField} (h : fields[index]? = some name.text) :
    name? fields index = some (Text.trim name.text) := by
  simp [name?, h, name.notBlank]

theorem place_eq {x y : Field} (hx : fields[index]? = some x.text)
    (hy : fields[index + 1]? = some y.text) : place fields index = x.place y := by
  simp only [place, Field.place, number?_eq hx, number?_eq hy]
  cases x.value? <;> cases y.value? <;> rfl

theorem duration_eq {field : Field} (h : fields[index]? = some field.text) :
    duration fields index = field.milliseconds := by
  rw [duration, number?_eq h, Field.milliseconds]
  cases field.value? with
  | none => rfl
  | some number => exact congrArg Int64.ofIntClamp (Binary64.round_eq_roundAway number)

theorem zoom_eq {z : Option Field} (h : fields[index]? = z.map Field.text) :
    zoom fields index = (z.bind Field.value?).getD 1 := by
  cases z with
  | none => simp [zoom, number?, h, defaultZoom]
  | some field =>
      rw [zoom, number?_eq h, defaultZoom, Option.bind_some]

theorem getElem?_optional {before more : List String} {z : Option Field}
    (hindex : before.length = index) (h : z.isSome ∨ more = []) :
    (before ++ (z.toList.map Field.text ++ more))[index]? = z.map Field.text := by
  subst hindex
  cases z with
  | none => simp [h.resolve_left (by simp)]
  | some field => simp

end Reading

theorem ofFields_written {written : Written} {speaker : String}
    (hspeaker : written.keyword = .move → Text.trim speaker ≠ "") {more : List String}
    (hmore : written.IsComplete ∨ more = []) :
    ofFields written.keyword
      (written.keyword.labels ++ (written.fields.map Field.text ++ more)) speaker =
      .ok (written.meaning speaker) := by
  cases written with
  | showCharacter name x y =>
      change ofFields .characterNew (["", "CHARA", "NEW", name.text, x.text, y.text] ++ more)
        speaker = _
      rw [ofFields, name?_eq rfl, place_eq rfl rfl]
      rfl
  | hideCharacter name =>
      change ofFields .characterHide (["", "CHARA", "HIDE", name.text] ++ more) speaker = _
      rw [ofFields, name?_eq rfl]
      rfl
  | moveCharacter x y duration zoom =>
      -- The zoom is the last of the fields, or there is none and nothing follows.
      have hzoom : (["", "MOVE", x.text, y.text, duration.text] ++
          (zoom.toList.map Field.text ++ more))[5]? = zoom.map Field.text :=
        getElem?_optional rfl hmore
      change ofFields .move (["", "MOVE", x.text, y.text, duration.text] ++
        (zoom.toList.map Field.text ++ more)) speaker = _
      rw [ofFields, if_neg (hspeaker rfl), place_eq rfl rfl, duration_eq rfl, zoom_eq hzoom]
      rfl
  | showBackground name x y zoom =>
      change ofFields .backgroundShow (["", "BG", "SHOW", name.text, x.text, y.text, zoom.text] ++
        more) speaker = _
      rw [ofFields, name?_eq rfl, place_eq rfl rfl, zoom_eq (z := some zoom) rfl,
        Option.bind_some]
      rfl
  | moveBackground dx dy duration zoom =>
      have hzoom : (["", "BG", "MOVE", dx.text, dy.text, duration.text] ++
          (zoom.toList.map Field.text ++ more))[6]? = zoom.map Field.text :=
        getElem?_optional rfl hmore
      change ofFields .backgroundMove (["", "BG", "MOVE", dx.text, dy.text, duration.text] ++
        (zoom.toList.map Field.text ++ more)) speaker = _
      rw [ofFields, if_neg (by simp [backgroundMoveFields]), number?_eq rfl, number?_eq rfl,
        duration_eq rfl, zoom_eq hzoom]
      rfl
  | startScroll => rfl
  | stopScroll => rfl

section Written

variable {written : Written} {speaker : String}

theorem fields_text (h : written.keyword ∈ fieldKeywords) :
    Text.fields '_' written.text =
      written.keyword.labels ++ written.fields.map Field.text := by
  have hsolid : ∀ piece ∈ written.fields.map Field.text, '_' ∉ piece.toList := by
    simp only [List.mem_map, forall_exists_index, and_imp, forall_apply_eq_imp_iff₂]
    exact fun field _ => field.solid
  have hne : written.fields.map Field.text ≠ [] := by
    cases written <;> simp [Written.fields, Written.keyword, fieldKeywords] at h ⊢
  rw [Written.text, fields_keyword_append h, Text.fields_intercalate rfl hsolid hne]

theorem read_text (h : written.keyword ∈ fieldKeywords)
    (hspeaker : written.keyword = .move → Text.trim speaker ≠ "") :
    read written.text speaker = some (.ok (written.meaning speaker)) := by
  have hstart : Text.startsWith written.text written.keyword.text := startsWith_append _ _
  have hread := ofFields_written hspeaker (.inr rfl)
  rw [List.append_nil, ← fields_text h] at hread
  rw [read_of_startsWith h hstart, hread]

theorem read_text_append (h : written.keyword ∈ fieldKeywords)
    (hspeaker : written.keyword = .move → Text.trim speaker ≠ "")
    (hcomplete : written.IsComplete) (more : String) :
    read (written.text ++ "_" ++ more) speaker = some (.ok (written.meaning speaker)) := by
  have hstart : Text.startsWith (written.text ++ "_" ++ more) written.keyword.text := by
    rw [Written.text, String.append_assoc, String.append_assoc]
    exact startsWith_append _ _
  have hfields : Text.fields '_' (written.text ++ "_" ++ more) =
      written.keyword.labels ++ (written.fields.map Field.text ++ Text.fields '_' more) := by
    rw [Text.fields_append rfl, fields_text h, List.append_assoc]
  rw [read_of_startsWith h hstart, hfields, ofFields_written hspeaker (.inl hcomplete)]

/-- Commands that are written in the layouts of the grammar are read back as what they say, and
what follows a command that has all its fields changes nothing. -/
theorem read_written (written : Written) {speaker : String}
    (hspeaker : written.keyword = .move → Text.trim speaker ≠ "") :
    read written.text speaker = some (.ok (written.meaning speaker)) ∧
      (written.IsComplete → ∀ more, read (written.text ++ "_" ++ more) speaker =
        some (.ok (written.meaning speaker))) := by
  by_cases hkeyword : written.keyword ∈ fieldKeywords
  · exact ⟨read_text hkeyword hspeaker, read_text_append hkeyword hspeaker⟩
  · cases written with
    | startScroll => exact ⟨rfl, False.elim⟩
    | stopScroll => exact ⟨rfl, False.elim⟩
    | _ => exact absurd (by simp [Written.keyword, fieldKeywords]) hkeyword

end Written

/-- One coordinate is no finite number, and half a millisecond is to be rounded. -/
def crookedMove : Written :=
  .moveCharacter ⟨"0.25", by decide⟩ ⟨"-inf", by decide⟩ ⟨" -2.5", by decide⟩
    (some ⟨"1.5 ", by decide⟩)

theorem read_crookedMove :
    crookedMove.text = "_MOVE_0.25_-inf_ -2.5_1.5 " ∧ Text.trim " Ai_ko " = "Ai_ko" ∧
      read "_MOVE_0.25_-inf_ -2.5_1.5 " " Ai_ko " =
        some (.ok (.moveCharacter "Ai_ko" 0.5 0.5 (-3) 1.5)) ∧
      read ("_MOVE_0.25_-inf_ -2.5_1.5 " ++ "_" ++ "2_soon") " Ai_ko " =
        some (.ok (.moveCharacter "Ai_ko" 0.5 0.5 (-3) 1.5)) := by
  have htext : crookedMove.text = "_MOVE_0.25_-inf_ -2.5_1.5 " := by decide
  have hspeaker : Text.trim " Ai_ko " = "Ai_ko" := by decide
  have hmeaning : crookedMove.meaning " Ai_ko " =
      .moveCharacter "Ai_ko" 0.5 0.5 (-3) 1.5 := by decide +kernel
  obtain ⟨hread, hmore⟩ := read_written crookedMove
    (fun _ => by rw [hspeaker]; decide : _ → Text.trim " Ai_ko " ≠ "")
  rw [htext, hmeaning] at hread
  rw [htext, hmeaning] at hmore
  exact ⟨htext, hspeaker, hread, hmore rfl _⟩

end VisualNovel.Command
