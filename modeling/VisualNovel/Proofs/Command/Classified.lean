import VisualNovel.Proofs.Command.Keywords
import VisualNovel.Proofs.Text.Trimmed

namespace VisualNovel

namespace Keyword

def Opens (keyword : Keyword) (text : String) : Prop :=
  ∃ rest, text = keyword.text ++ rest

/-- The text is a line of the keyword. A scroll command has to be the whole text. -/
def Heads (keyword : Keyword) (text : String) : Prop :=
  match keyword with
  | .scrollStart => text = scrollStart.text
  | .scrollStop => text = scrollStop.text
  | _ => keyword.Opens text

def takesName : Keyword → Bool
  | .characterNew | .characterHide | .backgroundShow => true
  | _ => false

/-- There are only blanks between the keyword and the next underscore, or the end of the text. -/
def NamesNobody (keyword : Keyword) (text : String) : Prop :=
  ∃ rest, text = keyword.text ++ rest ∧
    ∀ c ∈ rest.toList.takeWhile (· != '_'), Text.isBlank c = true

end Keyword

namespace Command

def numbers : Command → List Float
  | .showCharacter _ x y => [x, y]
  | .moveCharacter _ x y _ zoom => [x, y, zoom]
  | .showBackground _ x y zoom => [x, y, zoom]
  | .moveBackground dx dy _ zoom => [dx, dy, zoom]
  | _ => []

/-- The name that is written in the command itself. -/
def writtenName? : Command → Option String
  | .showCharacter name _ _ => some name
  | .hideCharacter name => some name
  | .showBackground name _ _ _ => some name
  | _ => none

/-- The name of the character that a line moves. -/
def mover? : Command → Option String
  | .moveCharacter name _ _ _ _ => some name
  | _ => none

/-- What can be relied on in a command that was read from a line of the speaker. -/
structure Sound (speaker : String) (command : Command) : Prop where
  finite : ∀ number ∈ command.numbers, number.isFinite = true
  writtenName : ∀ name ∈ command.writtenName?,
    name ≠ "" ∧ Text.Trimmed name ∧ '_' ∉ name.toList
  mover : ∀ name ∈ command.mover?, name = Text.trim speaker ∧ name ≠ ""

section Heads

variable {keyword : Keyword} {text : String}

theorem startsWith_iff_opens : Text.startsWith text keyword.text ↔ keyword.Opens text := by
  rw [startsWith_iff]
  constructor
  · rintro ⟨rest, hrest⟩
    refine ⟨String.ofList rest, ?_⟩
    rw [← String.toList_inj, String.toList_append, String.toList_ofList, hrest]
  · rintro ⟨rest, rfl⟩
    rw [String.toList_append]
    exact List.prefix_append _ _

theorem mem_fieldKeywords_of_takesName (h : keyword.takesName = true) :
    keyword ∈ fieldKeywords := by
  revert h
  cases keyword <;> decide

theorem heads_iff_opens (h : keyword ∈ fieldKeywords) : keyword.Heads text ↔ keyword.Opens text := by
  cases keyword with
  | scrollStart | scrollStop => exact absurd h (by decide)
  | _ => rfl

theorem read_of_heads (h : keyword.Heads text) (speaker : String) :
    read text speaker = some (ofFields keyword (Text.fields '_' text) speaker) := by
  by_cases hfields : keyword ∈ fieldKeywords
  · exact read_of_startsWith hfields
      (startsWith_iff_opens.mpr ((heads_iff_opens hfields).mp h)) speaker
  · cases keyword with
    | scrollStart =>
        obtain rfl : text = _ := h
        rfl
    | scrollStop =>
        obtain rfl : text = _ := h
        rfl
    | _ => exact absurd (by decide) hfields

theorem read_eq_none_iff {speaker : String} :
    read text speaker = none ↔ ∀ keyword : Keyword, ¬ keyword.Heads text := by
  constructor
  · intro hnone keyword hheads
    rw [read_of_heads hheads] at hnone
    cases hnone
  · intro h
    have hfind : fieldKeywords.find? (fun keyword => Text.startsWith text keyword.text) = none := by
      rw [List.find?_eq_none]
      intro keyword hkeyword hstart
      exact h keyword ((heads_iff_opens hkeyword).mpr (startsWith_iff_opens.mp hstart))
    have hstart : text ≠ Keyword.scrollStart.text := h .scrollStart
    have hstop : text ≠ Keyword.scrollStop.text := h .scrollStop
    rw [read, if_neg hstart, if_neg hstop, hfind]
    rfl

theorem read_eq_some_iff {speaker : String} {result : Except CommandError Command} :
    read text speaker = some result ↔
      ∃ keyword : Keyword, keyword.Heads text ∧
        ofFields keyword (Text.fields '_' text) speaker = result := by
  constructor
  · intro hread
    by_cases h : ∀ keyword : Keyword, ¬ keyword.Heads text
    · rw [read_eq_none_iff.mpr h] at hread
      cases hread
    · obtain ⟨keyword, hheads⟩ := not_forall_not.mp h
      rw [read_of_heads hheads, Option.some.injEq] at hread
      exact ⟨keyword, hheads, hread⟩
  · rintro ⟨keyword, hheads, rfl⟩
    exact read_of_heads hheads speaker

end Heads

section Fields

variable {fields : List String} {index : Nat} {speaker : String}

theorem isFinite_of_number? {x : Float} (h : number? fields index = some x) :
    x.isFinite = true :=
  (Option.filter_eq_some_iff.mp h).2

theorem isFinite_number?_getD {x : Float} (hx : x.isFinite = true) :
    ((number? fields index).getD x).isFinite = true := by
  cases hnumber : number? fields index with
  | none => exact hx
  | some number => exact isFinite_of_number? hnumber

theorem isFinite_place (fields : List String) (index : Nat) :
    (place fields index).1.isFinite = true ∧ (place fields index).2.isFinite = true := by
  have hdefault : defaultCoordinate.isFinite = true := by decide +kernel
  rw [place]
  split
  · rename_i x y hx hy
    exact ⟨isFinite_of_number? hx, isFinite_of_number? hy⟩
  · exact ⟨hdefault, hdefault⟩

theorem isFinite_zoom (fields : List String) (index : Nat) :
    (zoom fields index).isFinite = true :=
  isFinite_number?_getD (by decide +kernel)

theorem name?_eq_none_iff {field : String} (h : fields[index]? = some field) :
    name? fields index = none ↔ Text.AllBlank field := by
  rw [← Text.trim_eq_empty_iff]
  simp [name?, h]

theorem proper_of_name? (hsolid : ∀ field ∈ fields, '_' ∉ field.toList) {name : String}
    (h : name? fields index = some name) :
    name ≠ "" ∧ Text.Trimmed name ∧ '_' ∉ name.toList := by
  obtain ⟨hname, hne⟩ := Option.filter_eq_some_iff.mp h
  obtain ⟨field, hfield, rfl⟩ := Option.map_eq_some_iff.mp hname
  refine ⟨by simpa using hne, Text.trimmed_trim field, ?_⟩
  exact fun hmem => hsolid field (List.mem_of_getElem? hfield) (Text.trim_subset field hmem)

end Fields

section OfFields

variable {keyword keyword' : Keyword} {fields : List String} {speaker : String}
  {command : Command}

theorem keyword_and_sound_of_ofFields (hsolid : ∀ field ∈ fields, '_' ∉ field.toList)
    (h : ofFields keyword fields speaker = .ok command) :
    command.keyword = keyword ∧ command.Sound speaker := by
  have hplace := isFinite_place fields
  have hzoom := isFinite_zoom fields
  cases keyword with
  | characterNew =>
      cases hname : name? fields 3 with
      | none => simp [ofFields, hname] at h
      | some name =>
          simp only [ofFields, hname, Except.ok.injEq] at h
          subst h
          refine ⟨rfl, by simpa [numbers] using hplace 4, ?_, by simp [mover?]⟩
          simpa [writtenName?] using proper_of_name? hsolid hname
  | characterHide =>
      cases hname : name? fields 3 with
      | none => simp [ofFields, hname] at h
      | some name =>
          simp only [ofFields, hname, Except.ok.injEq] at h
          subst h
          refine ⟨rfl, by simp [numbers], ?_, by simp [mover?]⟩
          simpa [writtenName?] using proper_of_name? hsolid hname
  | move =>
      by_cases hblank : Text.trim speaker = ""
      · simp [ofFields, hblank] at h
      · simp only [ofFields, hblank, ↓reduceIte, Except.ok.injEq] at h
        subst h
        refine ⟨rfl, ?_, by simp [writtenName?], by simpa [mover?] using hblank⟩
        simpa [numbers] using ⟨(hplace 2).1, (hplace 2).2, hzoom 5⟩
  | backgroundShow =>
      cases hname : name? fields 3 with
      | none => simp [ofFields, hname] at h
      | some name =>
          simp only [ofFields, hname, Except.ok.injEq] at h
          subst h
          refine ⟨rfl, ?_, ?_, by simp [mover?]⟩
          · simpa [numbers] using ⟨(hplace 4).1, (hplace 4).2, hzoom 6⟩
          · simpa [writtenName?] using proper_of_name? hsolid hname
  | backgroundMove =>
      have hzero : (0 : Float).isFinite = true := by decide +kernel
      by_cases hfew : fields.length < backgroundMoveFields
      · simp [ofFields, hfew] at h
      · simp only [ofFields, hfew, ↓reduceIte, Except.ok.injEq] at h
        subst h
        refine ⟨rfl, ?_, by simp [writtenName?], by simp [mover?]⟩
        simpa [numbers] using
          ⟨isFinite_number?_getD hzero, isFinite_number?_getD hzero, hzoom 6⟩
  | scrollStart | scrollStop =>
      cases h
      exact ⟨rfl, by simp [numbers], by simp [writtenName?], by simp [mover?]⟩

theorem ofFields_eq_missingName_iff :
    ofFields keyword fields speaker = .error (.missingName keyword') ↔ keyword' = keyword ∧
      (keyword = .move ∧ Text.AllBlank speaker ∨
        keyword.takesName = true ∧ name? fields 3 = none) := by
  cases keyword with
  | characterNew | characterHide | backgroundShow =>
      cases hname : name? fields 3 <;> simp [ofFields, hname, Keyword.takesName, eq_comm]
  | move =>
      rw [← Text.trim_eq_empty_iff]
      by_cases hblank : Text.trim speaker = "" <;>
        simp [ofFields, hblank, Keyword.takesName, eq_comm]
  | backgroundMove =>
      by_cases hfew : fields.length < backgroundMoveFields <;>
        simp [ofFields, hfew, Keyword.takesName]
  | scrollStart | scrollStop => simp [ofFields, Keyword.takesName]

theorem ofFields_eq_tooFewFields_iff {needed got : Nat} :
    ofFields keyword fields speaker = .error (.tooFewFields keyword' needed got) ↔
      keyword' = keyword ∧ keyword = .backgroundMove ∧ fields.length < 6 ∧ needed = 6 ∧
        got = fields.length := by
  cases keyword with
  | characterNew | characterHide | backgroundShow =>
      cases hname : name? fields 3 <;> simp [ofFields, hname]
  | move => by_cases hblank : Text.trim speaker = "" <;> simp [ofFields, hblank]
  | backgroundMove =>
      by_cases hfew : fields.length < 6 <;>
        simp [ofFields, backgroundMoveFields, hfew, eq_comm]
  | scrollStart | scrollStop => simp [ofFields]

theorem ofFields_speaker (h : keyword ≠ .move) (fields : List String) (speaker other : String) :
    ofFields keyword fields other = ofFields keyword fields speaker := by
  cases keyword with
  | move => exact absurd rfl h
  | _ => rfl

end OfFields

section Texts

variable {keyword : Keyword} {text speaker : String}

theorem name?_eq_none_iff_namesNobody (h : keyword.takesName = true) (hopens : keyword.Opens text) :
    name? (Text.fields '_' text) 3 = none ↔ keyword.NamesNobody text := by
  obtain ⟨rest, rfl⟩ := hopens
  have hlabels : keyword.labels.length = 3 := by
    revert h
    cases keyword <;> decide
  have hfield : (Text.fields '_' (keyword.text ++ rest))[3]? =
      some (String.ofList (rest.toList.takeWhile (· != '_'))) := by
    rw [fields_keyword_append (mem_fieldKeywords_of_takesName h), ← hlabels,
      List.getElem?_append_right (Nat.le_refl _), Nat.sub_self, ← List.head?_eq_getElem?,
      Text.head?_fields]
  rw [name?_eq_none_iff hfield, Text.AllBlank, String.toList_ofList]
  constructor
  · exact fun hblank => ⟨rest, rfl, hblank⟩
  · rintro ⟨other, hother, hblank⟩
    rwa [(String.append_right_inj _).mp hother]

theorem read_eq_missingName_iff :
    read text speaker = some (.error (.missingName keyword)) ↔
      keyword = .move ∧ keyword.Opens text ∧ Text.AllBlank speaker ∨
      keyword.takesName = true ∧ keyword.NamesNobody text := by
  simp only [read_eq_some_iff, ofFields_eq_missingName_iff]
  constructor
  · rintro ⟨_, hheads, rfl, ⟨rfl, hblank⟩ | ⟨htakes, hnone⟩⟩
    · exact .inl ⟨rfl, hheads, hblank⟩
    · have hopens := (heads_iff_opens (mem_fieldKeywords_of_takesName htakes)).mp hheads
      exact .inr ⟨htakes, (name?_eq_none_iff_namesNobody htakes hopens).mp hnone⟩
  · rintro (⟨rfl, hopens, hblank⟩ | ⟨htakes, hnobody⟩)
    · exact ⟨.move, hopens, rfl, .inl ⟨rfl, hblank⟩⟩
    · obtain ⟨rest, htext, -⟩ := id hnobody
      have hopens : keyword.Opens text := ⟨rest, htext⟩
      exact ⟨_, (heads_iff_opens (mem_fieldKeywords_of_takesName htakes)).mpr hopens, rfl,
        .inr ⟨htakes, (name?_eq_none_iff_namesNobody htakes hopens).mpr hnobody⟩⟩

theorem read_eq_tooFewFields_iff {needed got : Nat} :
    read text speaker = some (.error (.tooFewFields keyword needed got)) ↔
      keyword = .backgroundMove ∧ keyword.Opens text ∧ text.toList.count '_' < 5 ∧ needed = 6 ∧
        got = text.toList.count '_' + 1 := by
  simp only [read_eq_some_iff, ofFields_eq_tooFewFields_iff, Text.length_fields]
  constructor
  · rintro ⟨_, hheads, rfl, rfl, hfew, hneeded, hgot⟩
    exact ⟨rfl, hheads, by omega, hneeded, hgot⟩
  · rintro ⟨rfl, hopens, hfew, hneeded, hgot⟩
    exact ⟨.backgroundMove, hopens, rfl, rfl, by omega, hneeded, hgot⟩

theorem read_speaker (h : ¬ Keyword.move.Opens text) (speaker other : String) :
    read text other = read text speaker := by
  by_cases hnone : ∀ keyword : Keyword, ¬ keyword.Heads text
  · rw [read_eq_none_iff.mpr hnone, read_eq_none_iff.mpr hnone]
  · obtain ⟨keyword, hheads⟩ := not_forall_not.mp hnone
    have hne : keyword ≠ .move := by
      rintro rfl
      exact h hheads
    rw [read_of_heads hheads, read_of_heads hheads, ofFields_speaker hne]

theorem heads_and_sound_of_read {command : Command}
    (h : read text speaker = some (.ok command)) :
    command.keyword.Heads text ∧ command.Sound speaker := by
  obtain ⟨keyword, hheads, hcommand⟩ := read_eq_some_iff.mp h
  obtain ⟨rfl, hsound⟩ :=
    keyword_and_sound_of_ofFields (fun _ => Text.not_mem_of_mem_fields) hcommand
  exact ⟨hheads, hsound⟩

/-- Exactly the texts that are no line of any keyword are dialogue. A command that is read belongs
to the keyword that the text opens with, its numbers are finite and its names proper. A line lacks
its name if its speaker, or its first field, is blank, and a background move with fewer than five
underscores has too few fields. Only in moves does the speaker count. -/
theorem read_tells_lines_apart (text speaker : String) :
    (read text speaker = none ↔ ∀ keyword : Keyword, ¬ keyword.Heads text) ∧
    (∀ command, read text speaker = some (.ok command) →
      command.keyword.Heads text ∧ command.Sound speaker) ∧
    (∀ keyword, read text speaker = some (.error (.missingName keyword)) ↔
      keyword = .move ∧ keyword.Opens text ∧ Text.AllBlank speaker ∨
      keyword.takesName = true ∧ keyword.NamesNobody text) ∧
    (∀ keyword needed got, read text speaker = some (.error (.tooFewFields keyword needed got)) ↔
      keyword = .backgroundMove ∧ keyword.Opens text ∧ text.toList.count '_' < 5 ∧ needed = 6 ∧
        got = text.toList.count '_' + 1) ∧
    (¬ Keyword.move.Opens text → ∀ other, read text other = read text speaker) := by
  refine ⟨read_eq_none_iff, ?_, ?_, ?_, ?_⟩
  · intro command hread
    exact heads_and_sound_of_read hread
  · intro keyword
    exact read_eq_missingName_iff
  · intro keyword needed got
    exact read_eq_tooFewFields_iff
  · intro hopens other
    exact read_speaker hopens speaker other

end Texts

/-- Texts that only just miss being commands. -/
theorem read_nearMisses :
    read "_SCROLL_STOPPED" "Aoi" = none ∧
    read "_BG_SHOW_ \t_0.5_0.5" "Aoi" = some (.error (.missingName .backgroundShow)) ∧
    read "_MOVE_0_0_0" "\u3000" = some (.error (.missingName .move)) ∧
    read "_BG_MOVE_0.1_0.1" "Aoi" = some (.error (.tooFewFields .backgroundMove 6 5)) ∧
    ∀ other, read "_MOVE" other = read "_MOVE" "Aoi" := by
  obtain ⟨hnone, -⟩ := read_tells_lines_apart "_SCROLL_STOPPED" "Aoi"
  obtain ⟨-, -, hname, -⟩ := read_tells_lines_apart "_BG_SHOW_ \t_0.5_0.5" "Aoi"
  obtain ⟨-, -, hspeaker, -⟩ := read_tells_lines_apart "_MOVE_0_0_0" "\u3000"
  obtain ⟨-, -, -, hfew, -⟩ := read_tells_lines_apart "_BG_MOVE_0.1_0.1" "Aoi"
  obtain ⟨-, -, -, -, hother⟩ := read_tells_lines_apart "_MOVE" "Aoi"
  refine ⟨hnone.mpr ?_, ?_, ?_, ?_, hother ?_⟩
  · intro keyword
    cases keyword with
    | scrollStart => exact (by decide : "_SCROLL_STOPPED" ≠ Keyword.scrollStart.text)
    | scrollStop => exact (by decide : "_SCROLL_STOPPED" ≠ Keyword.scrollStop.text)
    | _ => exact fun hopens => absurd (startsWith_iff_opens.mpr hopens) (by decide)
  · have hblank : (" \t_0.5_0.5".toList.takeWhile (· != '_')).all Text.isBlank = true := by decide
    exact (hname _).mpr (.inr ⟨rfl, " \t_0.5_0.5", by decide, List.all_eq_true.mp hblank⟩)
  · exact (hspeaker _).mpr (.inl ⟨rfl, ⟨"0_0_0", by decide⟩, by decide⟩)
  · exact (hfew _ _ _).mpr ⟨rfl, ⟨"0.1_0.1", by decide⟩, by decide, rfl, by decide⟩
  · exact fun hopens => absurd (startsWith_iff_opens.mpr hopens) (by decide)

end Command

end VisualNovel
