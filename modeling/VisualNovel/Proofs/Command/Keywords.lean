import VisualNovel.Command
import VisualNovel.Proofs.Text.Fields

namespace VisualNovel

/-- The fields that a keyword makes up of the text that it opens. -/
def Keyword.labels : Keyword → List String
  | .characterNew => ["", "CHARA", "NEW"]
  | .characterHide => ["", "CHARA", "HIDE"]
  | .move => ["", "MOVE"]
  | .backgroundShow => ["", "BG", "SHOW"]
  | .backgroundMove => ["", "BG", "MOVE"]
  | .scrollStart => ["", "SCROLL", "START"]
  | .scrollStop => ["", "SCROLL", "STOP"]

namespace Command

section Keyword

variable {keyword keyword' : Keyword} {text : String}

theorem startsWith_iff : Text.startsWith text keyword.text ↔
    keyword.text.toList <+: text.toList :=
  List.isPrefixOf_iff_prefix

theorem startsWith_append (keyword : Keyword) (rest : String) :
    Text.startsWith (keyword.text ++ rest) keyword.text := by
  rw [startsWith_iff, String.toList_append]
  exact List.prefix_append _ _

theorem eq_of_opens (h : keyword ∈ fieldKeywords)
    (hopens : keyword.text.toList <+: keyword'.text.toList) : keyword = keyword' := by
  revert h hopens
  cases keyword <;> cases keyword' <;> decide

theorem eq_of_startsWith (h : keyword ∈ fieldKeywords) (h' : keyword' ∈ fieldKeywords)
    (hstart : Text.startsWith text keyword.text) (hstart' : Text.startsWith text keyword'.text) :
    keyword = keyword' := by
  rw [startsWith_iff] at hstart hstart'
  rcases List.prefix_or_prefix_of_prefix hstart hstart' with hopens | hopens
  · exact eq_of_opens h hopens
  · exact (eq_of_opens h' hopens).symm

theorem find?_startsWith (h : keyword ∈ fieldKeywords)
    (hstart : Text.startsWith text keyword.text) :
    fieldKeywords.find? (fun other => Text.startsWith text other.text) = some keyword := by
  cases hfind : fieldKeywords.find? (fun other => Text.startsWith text other.text) with
  | none =>
      rw [List.find?_eq_none] at hfind
      exact absurd hstart (hfind keyword h)
  | some other =>
      have hother := List.find?_some hfind
      rw [eq_of_startsWith (List.mem_of_find?_eq_some hfind) h hother hstart]

theorem ne_text_of_startsWith (h : keyword ∈ fieldKeywords) (h' : keyword' ∉ fieldKeywords)
    (hstart : Text.startsWith text keyword.text) : text ≠ keyword'.text := by
  rintro rfl
  rw [startsWith_iff] at hstart
  exact h' (eq_of_opens h hstart ▸ h)

theorem read_of_startsWith (h : keyword ∈ fieldKeywords)
    (hstart : Text.startsWith text keyword.text) (speaker : String) :
    read text speaker = some (ofFields keyword (Text.fields '_' text) speaker) := by
  rw [read, if_neg (ne_text_of_startsWith h (by decide) hstart),
    if_neg (ne_text_of_startsWith h (by decide) hstart), find?_startsWith h hstart]
  rfl

theorem text_eq_intercalate (h : keyword ∈ fieldKeywords) :
    keyword.text = "_".intercalate keyword.labels ++ "_" := by
  revert h
  cases keyword <;> decide

theorem fields_keyword_append (h : keyword ∈ fieldKeywords) (rest : String) :
    Text.fields '_' (keyword.text ++ rest) = keyword.labels ++ Text.fields '_' rest := by
  have hsolid : ∀ label ∈ keyword.labels, '_' ∉ label.toList := by
    cases keyword <;> decide
  have hne : keyword.labels ≠ [] := by
    cases keyword <;> decide
  rw [text_eq_intercalate h, Text.fields_append rfl, Text.fields_intercalate rfl hsolid hne]

end Keyword

end Command

end VisualNovel
