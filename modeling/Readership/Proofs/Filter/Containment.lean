import Readership.Proofs.Filter.Constructors
import Readership.Proofs.Text.Search
import Readership.Proofs.Text.SmallLetters

/-!
# Texts that a filter finds

A condition with `contains` looks for one text in another, both in small letters. What is
looked for is made small on its own, and what is looked through as a whole, so a text
may be there as it is written and not be found: the capital sigma at the end of what is
looked for is a final one, and in the middle of a word it is not.

`Condition.finds` says what is found. An occurrence is found where the capital sigmas of the
text that is looked for have the forms that they have in it alone, and all its occurrences
are found if these forms are settled in it, and only then. In particular a text without a
capital sigma is found wherever it is written, by any text that has the same small letters.
-/

namespace Readership

/-- **A condition searches a field** for a text. -/
structure Condition.Searches (c : Condition) (f : Field) (sought : String) : Prop where
  field : Field.parse c.field = .ok f
  operator : c.operator = .contains
  value : Field.scalarText? c.value = some sought

/-- **A text is found verbatim**: a condition that searches a field for it, or for a text with
the same small letters, is true of every record whose value there has it in it. -/
def Text.FoundVerbatim (needle : String) : Prop :=
  ∀ (c : Condition) (f : Field) (sought t : String) (r : ViewRecord), c.Searches f sought →
    Text.lowercase sought = Text.lowercase needle → r f = .text t →
    needle.toList <:+: t.toList → Predicate.Evaluates r (.leaf c) true

namespace Condition

variable {c : Condition} {f : Field} {sought t : String} {r : ViewRecord}

/-- A condition that searches a field passes the check. -/
theorem Searches.check_eq (h : c.Searches f sought) :
    c.check = .ok ⟨f, .contains (Text.lowercase sought)⟩ := by
  refine check_of_testOf h.field ?_
  rw [testOf, h.operator, h.value]

/-- A condition that passes the check says what its criterion says. -/
theorem evaluates_leaf_iff {k : Criterion} {v : Bool} (h : c.check = .ok k) :
    Predicate.Evaluates r (.leaf c) v ↔ k.holds r = v := by
  rw [Predicate.Evaluates, Predicate.check_leaf, h]
  constructor
  · rintro ⟨s, ⟨⟩, hholds⟩
    exact hholds
  · exact fun hholds => ⟨.criterion k, rfl, hholds⟩

/-- **A search is true** of a text that has what is sought in it, both in small letters. -/
theorem Searches.evaluates_iff (h : c.Searches f sought) (ht : (r f).text? = some t) :
    Predicate.Evaluates r (.leaf c) true
      ↔ Text.lower sought.toList <:+: Text.lower t.toList := by
  rw [evaluates_leaf_iff h.check_eq, Criterion.holds, Test.holds, ht, Text.lowercase,
    String.toList_ofList]
  exact Text.occursIn_iff

/-- Texts with the same small letters. -/
theorem lower_eq_of_lowercase_eq {s t : String} (h : Text.lowercase s = Text.lowercase t) :
    Text.lower s.toList = Text.lower t.toList :=
  String.ofList_injective h

/-- A search of the titles for a text. -/
theorem searches_title (needle : String) :
    Searches ⟨Field.blogTitle.path, .contains, .str needle⟩ .blogTitle needle :=
  ⟨Field.blogTitle.parse_path, rfl, rfl⟩

/-- **A text is found verbatim** if its small letters are in those of every text that it is
part of. -/
theorem foundVerbatim_iff {needle : String} :
    Text.FoundVerbatim needle
      ↔ ∀ cs, needle.toList <:+: cs → Text.lower needle.toList <:+: Text.lower cs := by
  constructor
  · intro h cs hcs
    have hfound := h _ .blogTitle needle (String.ofList cs) (fun _ => .text (String.ofList cs))
      (searches_title needle) rfl rfl (by rwa [String.toList_ofList])
    rwa [(searches_title needle).evaluates_iff rfl, String.toList_ofList] at hfound
  · intro h c f sought t r hsearches hsought hr hinfix
    rw [hsearches.evaluates_iff (congrArg FieldValue.text? hr), lower_eq_of_lowercase_eq hsought]
    exact h t.toList hinfix

/-- **What a search finds.** A text is found where its capital sigmas have the forms that they
have in it alone. It is found verbatim wherever it is written if these forms are settled in
it, in particular if there are none, and only then. -/
theorem finds (needle : String) :
    (∀ (c : Condition) (f : Field) (sought t : String) (r : ViewRecord) (a b : List Char),
      c.Searches f sought → Text.lowercase sought = Text.lowercase needle →
      (r f).text? = some t → t.toList = a ++ needle.toList ++ b →
      Text.KeepsForms a.reverse needle.toList b → Predicate.Evaluates r (.leaf c) true)
    ∧ ('Σ' ∉ needle.toList → Text.FoundVerbatim needle)
    ∧ (Text.FoundVerbatim needle ↔ Text.IsSettled needle.toList) := by
  have hverbatim : Text.FoundVerbatim needle ↔ Text.IsSettled needle.toList :=
    foundVerbatim_iff.trans Text.lower_isInfix_iff
  refine ⟨fun c f sought t r a b hsearches hsought ht hcut hkeeps => ?_,
    fun h => hverbatim.mpr (Text.isSettled_of_not_mem h), hverbatim⟩
  rw [hsearches.evaluates_iff ht, lower_eq_of_lowercase_eq hsought, hcut]
  exact Text.lower_isInfix hkeeps

/-- A sigma that a letter follows is settled, and one at the end of a word is found there, here
by searches in small letters. -/
theorem finds_letterFollows :
    Text.IsSettled "ΟΔΥΣΣΕ".toList
      ∧ Predicate.Evaluates (fun _ => .text "ΟΔΥΣΣΕΑΣ")
          (.leaf ⟨"blog__title", .contains, .str "οδυσσε"⟩) true
      ∧ Text.KeepsForms [] "ΟΔΥΣ".toList " ΟΔΥΣΣΕΑΣ".toList
      ∧ Predicate.Evaluates (fun _ => .text "ΟΔΥΣ ΟΔΥΣΣΕΑΣ")
          (.leaf ⟨"blog__title", .contains, .str "οδυς"⟩) true := by
  have hsettled : Text.IsSettled "ΟΔΥΣΣΕ".toList := by decide +kernel
  have hkeeps : Text.KeepsForms [] "ΟΔΥΣ".toList " ΟΔΥΣΣΕΑΣ".toList := by decide +kernel
  refine ⟨hsettled, ?_, hkeeps, ?_⟩
  · exact (finds "ΟΔΥΣΣΕ").2.2.mpr hsettled _ .blogTitle "οδυσσε" "ΟΔΥΣΣΕΑΣ" _ ⟨rfl, rfl, rfl⟩
      (by decide +kernel) rfl ⟨[], "ΑΣ".toList, by decide⟩
  · exact (finds "ΟΔΥΣ").1 _ .blogTitle "οδυς" "ΟΔΥΣ ΟΔΥΣΣΕΑΣ" _ [] _ ⟨rfl, rfl, rfl⟩
      (by decide +kernel) rfl (by decide) hkeeps

/-- **Not every text is found verbatim**: a sigma at the end of what is sought is a final one,
and in the middle of the word it is not. -/
theorem not_finds_all : ¬ ∀ needle, Text.FoundVerbatim needle := by
  intro h
  have hsearches : Searches ⟨"blog__title", .contains, .str "ΟΔΥΣ"⟩ .blogTitle "ΟΔΥΣ" :=
    ⟨rfl, rfl, rfl⟩
  have hfound := h "ΟΔΥΣ" _ _ _ "ΟΔΥΣΣΕΑΣ" (fun _ => .text "ΟΔΥΣΣΕΑΣ") hsearches rfl rfl
    ⟨[], "ΣΕΑΣ".toList, by decide⟩
  exact absurd ((hsearches.evaluates_iff rfl).mp hfound) (by decide +kernel)

end Condition

end Readership
