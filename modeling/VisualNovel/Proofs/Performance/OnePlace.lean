import VisualNovel.Proofs.Performance.FreshStart
import VisualNovel.Proofs.Performance.ScrolledText
import VisualNovel.Proofs.Scroll.Window

namespace VisualNovel

/-- The name that a line is shown under. If the line names one of the cast, it is the name that the
player chose, else the display name, else the name itself; otherwise it is the speaker. -/
inductive ShownAs (cast : Cast) (names : NameBook) (line : Line) : String → Prop
  | chosen {key name : String} {identity : Identity} (hkey : line.displayName = some key)
      (hfound : cast.find? key = some identity)
      (hchosen : names.get? identity.name = some name) : ShownAs cast names line name
  | displayed {key name : String} {identity : Identity} (hkey : line.displayName = some key)
      (hfound : cast.find? key = some identity) (hchosen : names.get? identity.name = none)
      (hdisplayed : identity.displayName = some name) : ShownAs cast names line name
  | named {key : String} {identity : Identity} (hkey : line.displayName = some key)
      (hfound : cast.find? key = some identity) (hchosen : names.get? identity.name = none)
      (hdisplayed : identity.displayName = none) : ShownAs cast names line identity.name
  | spoken (hnobody : ∀ key, line.displayName = some key → cast.find? key = none) :
      ShownAs cast names line line.speaker

namespace Performance

theorem shownAs_iff (p : Performance) (line : Line) (name : String) :
    ShownAs p.cast p.names line name ↔ name = p.shownName line := by
  constructor
  · intro h
    cases h with
    | chosen hkey hfound hchosen => simp [shownName, hkey, hfound, NameBook.displayName, hchosen]
    | displayed hkey hfound hchosen hdisplayed =>
        simp [shownName, hkey, hfound, NameBook.displayName, hchosen, hdisplayed]
    | named hkey hfound hchosen hdisplayed =>
        simp [shownName, hkey, hfound, NameBook.displayName, hchosen, hdisplayed]
    | spoken hnobody =>
        cases hkey : line.displayName with
        | none => simp [shownName, hkey]
        | some key => simp [shownName, hkey, hnobody key hkey]
  · rintro rfl
    unfold shownName
    split
    · rename_i identity hidentity
      obtain ⟨key, hkey, hfound⟩ := Option.bind_eq_some_iff.mp hidentity
      cases hchosen : p.names.get? identity.name with
      | some name => simpa [NameBook.displayName, hchosen] using .chosen hkey hfound hchosen
      | none =>
          cases hdisplayed : identity.displayName with
          | some name =>
              simpa [NameBook.displayName, hchosen, hdisplayed] using
                .displayed hkey hfound hchosen hdisplayed
          | none =>
              simpa [NameBook.displayName, hchosen, hdisplayed] using
                .named hkey hfound hchosen hdisplayed
    · rename_i hnone
      refine .spoken fun key hkey => ?_
      simpa [hkey] using hnone

/-- Where a line is that is shown under a name: it was put behind what had been in the scroll, or
into the text box, with the scroll left as it was. -/
inductive Placed (before : Scroll) (line : Line) (name : String) (p : Performance) : Prop
  | scrolled (hmode : p.scrollMode = true) (hcurrent : p.current = none)
      (hopen : p.scroll.isScrolling = true)
      (hlast : ∃ block, p.scroll.session = before.session ++ [block] ∧ block.text = line.text ∧
        block.speaker = name) : Placed before line name p
  | boxed (hmode : p.scrollMode = false) (hidle : p.scroll.mode = .idle)
      (hscroll : p.scroll = before) (hcurrent : p.current = some ⟨line.speaker, name, line.text⟩) :
      Placed before line name p

/-- The operation leaves the script where it is. -/
def Operation.waits : Operation → Bool
  | .load _ | .advance => false
  | _ => true

/-- While a scroll is open, dialogue goes to it and there is nothing in the text box. -/
def Unmixed (p : Performance) : Prop :=
  p.scroll.isScrolling = true → p.scrollMode = true ∧ p.current = none

section Unmixed

variable {p q : Performance}

theorem unmixed_ofConfig (config : Config) (cast : Cast) (names : NameBook) :
    (ofConfig config cast names).Unmixed := by
  intro hopen
  cases hopen

theorem Unmixed.execute (h : p.Unmixed) {command : Command}
    (hexecute : p.execute command = .ok q) : q.Unmixed := by
  rcases execute_cases hexecute with ⟨stage, rfl⟩ | rfl | rfl
  · exact h
  · intro hopen
    exact ⟨rfl, (h hopen).2⟩
  · intro hopen
    cases hmode : p.scroll.mode <;> simp [Scroll.isScrolling, Scroll.stop, hmode] at hopen

theorem Unmixed.present (h : p.Unmixed) (line : Line) : (p.present line).Unmixed := by
  rw [present_eq]
  split
  · intro hopen
    exact ⟨‹_›, rfl⟩
  · rename_i hmode
    intro hopen
    exact absurd (h hopen).1 hmode

theorem unmixed_invariant : Invariant Unmixed where
  load _ _ h hopen := ⟨(h hopen).1, rfl⟩
  moveTo _ _ h := h
  execute _ _ _ _ _ h hexecute := h.execute hexecute
  present _ line h := h.present line
  tick _ _ h := h
  drain _ h := h
  setName _ _ _ h := h

end Unmixed

section Placed

variable {p q : Performance} {before : Scroll} {line : Line} {name : String}

theorem placed_present {config : Config} {cast : Cast} (h : p.Orderly config cast) (line : Line) :
    Placed p.scroll line (p.shownName line) (p.present line) := by
  rw [present_eq]
  split
  · rename_i hmode
    cases hscroll : p.scroll.mode with
    | idle =>
        have hopen : p.scroll.isScrolling = false := by simp [Scroll.isScrolling, hscroll]
        simp only [hopen, Bool.false_eq_true, ↓reduceIte, Scroll.start_eq hscroll]
        -- Nothing is left in a scroll that is not open, so the line is its only block.
        refine .scrolled hmode rfl rfl ⟨⟨line.text, p.shownName line, true⟩, ?_, rfl, rfl⟩
        rw [h.blank hscroll]
        rfl
    | scrolling =>
        have hopen : p.scroll.isScrolling = true := by simp [Scroll.isScrolling, hscroll]
        simp only [hopen, ↓reduceIte, Scroll.add_eq hscroll]
        exact .scrolled hmode rfl hopen
          ⟨p.scroll.nextBlock line.text (some (p.shownName line)), rfl, rfl, rfl⟩
  · rename_i hmode
    have hclosed : p.scrollMode = false := by simpa using hmode
    exact .boxed hclosed (h.closed hclosed) rfl rfl

theorem Placed.exists_perform_eq_ok (h : Placed before line name p) {operation : Operation}
    (hwaits : operation.waits = true) :
    ∃ answer q, p.perform operation = .ok (answer, q) ∧ Placed before line name q := by
  cases operation with
  | load script => cases hwaits
  | advance => cases hwaits
  | tick now | drainBacklog | setName identity name =>
      refine ⟨_, _, rfl, ?_⟩
      cases h with
      | scrolled hmode hcurrent hopen hlast => exact .scrolled hmode hcurrent hopen hlast
      | boxed hmode hidle hscroll hcurrent => exact .boxed hmode hidle hscroll hcurrent

theorem Placed.exists_run_eq_ok (h : Placed before line name p) {operations : List Operation}
    (hwaits : ∀ operation ∈ operations, operation.waits = true) :
    ∃ deeds q, run perform p operations = .ok (deeds, q) ∧ Placed before line name q :=
  Run.exists_run_eq_ok
    (fun _ operation hmem hp => hp.exists_perform_eq_ok (hwaits operation hmem)) h

end Placed

/-- Every line that is presented is in exactly one place. While a scroll is open, dialogue goes to it
and nothing is in the text box. An advance that stops leaves the line at the cursor under the name
that it is shown under either behind what was in the scroll or, with the scroll idle and as the
commands before the line left it, in the text box; and there it is until the next advance or load,
whatever is performed in between. -/
theorem presented_in_one_place (config : Config) (cast : Cast) (names : NameBook)
    {operations : List Operation} {deeds : List Deed} {p : Performance}
    (hrun : run perform (.ofConfig config cast names) operations = .ok (deeds, p)) :
    (p.scroll.isScrolling = true → p.scrollMode = true ∧ p.current = none) ∧
    ∀ q, p.advance = .ok (true, q) →
      ∃ index line name before,
        q.cursor = some index ∧ q.line? = some line ∧
        (∀ other, ShownAs cast q.names line other ↔ other = name) ∧
        p.executeAll (p.script.commands p.next index) = .ok before ∧
        ∀ later : List Operation, (∀ operation ∈ later, operation.waits = true) →
          ∃ laterDeeds r, run perform q later = .ok (laterDeeds, r) ∧
            Placed before.scroll line name r := by
  refine ⟨unmixed_invariant.of_run (unmixed_ofConfig config cast names) hrun, ?_⟩
  intro q hadvance
  rcases advance_cases hadvance with
    ⟨lines, line, after, before, hlines, -, -, hexecute, -, rfl⟩ | ⟨-, -, -, hfalse, -⟩
  · have horderly := (orderly_invariant config cast).executeAll (orderly_of_run hrun) hexecute
    have hmoved := (orderly_invariant config cast).moveTo before
      (some (p.next + lines.length)) horderly
    refine ⟨p.next + lines.length, line, before.shownName line, before, ?_,
      line?_present hlines hexecute, ?_, ?_, ?_⟩
    · rw [present_cursor]
      rfl
    · intro other
      rw [present_names, ← horderly.cast]
      exact before.shownAs_iff line other
    · rw [Script.commands_of_drop_eq hlines]
      exact hexecute
    · intro later hwaits
      exact (placed_present hmoved line).exists_run_eq_ok hwaits
  · cases hfalse

/-- A line of the scroll, under a name that the player chose. -/
def namedScroll : List Operation := [
  .setName "Aoi" "Hime",
  .load ⟨[
    { speaker := "", text := "_SCROLL_START" },
    { speaker := "???", text := "Stars fall.", displayName := some "Aoi" }]⟩]

theorem namedScroll_in_one_place : ∃ deeds p q line before laterDeeds r,
    run perform (.ofConfig .standard soloCast .empty) namedScroll = .ok (deeds, p) ∧
    p.advance = .ok (true, q) ∧ q.line? = some line ∧ line.text = "Stars fall." ∧
    ShownAs soloCast q.names line "Hime" ∧ q.scrollMode = true ∧
    (∀ operation ∈ [Operation.tick 40, .drainBacklog], operation.waits = true) ∧
    run perform q [.tick 40, .drainBacklog] = .ok (laterDeeds, r) ∧
    Placed before line "Hime" r := by
  have hend : (run perform (.ofConfig .standard soloCast .empty) namedScroll).toOption.map
      (fun result => result.2.advance.toOption.map fun result =>
        (result.1, result.2.line?, result.2.names.get? "Aoi", result.2.scrollMode)) =
      some (some (true, some ⟨"???", {}, "Stars fall.", some "Aoi"⟩, some "Hime", true)) := by
    decide +kernel
  obtain ⟨⟨deeds, p⟩, hrun, hend⟩ := exists_of_toOption_map_eq_some hend
  obtain ⟨⟨waits, q⟩, hadvance, hend⟩ := exists_of_toOption_map_eq_some hend
  simp only [Prod.mk.injEq] at hend
  obtain ⟨rfl, hline, hchosen, hmode⟩ := hend
  obtain ⟨-, hplaced⟩ := presented_in_one_place .standard soloCast .empty hrun
  obtain ⟨index, line, name, before, -, hsame, hname, -, hlater⟩ := hplaced q hadvance
  obtain rfl : line = _ := Option.some.inj (hsame.symm.trans hline)
  have hshown : ShownAs soloCast q.names ⟨"???", {}, "Stars fall.", some "Aoi"⟩ "Hime" :=
    .chosen rfl rfl hchosen
  obtain rfl : "Hime" = name := (hname "Hime").mp hshown
  have hwaits : ∀ operation ∈ [Operation.tick 40, .drainBacklog], operation.waits = true := by
    decide
  obtain ⟨laterDeeds, r, hrest, hplace⟩ := hlater _ hwaits
  exact ⟨deeds, p, q, _, before.scroll, laterDeeds, r, hrun, hadvance, hline, rfl, hshown, hmode,
    hwaits, hrest, hplace⟩

end Performance

end VisualNovel
