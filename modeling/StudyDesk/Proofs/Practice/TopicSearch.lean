/-
Module: StudyDesk.Proofs.Practice.TopicSearch
Purpose: Which problems are found by a text of their topic, and which texts are found wherever they
  stand.
Main exports:
  Library.occursIn_eq_true_iff, Library.mem_withTopic_iff, Library.TopicLaw,
  Library.withTopic_obeys_law, Library.withTopic_misses_sigma
-/
import Mathlib.Data.List.Basic
import StudyDesk.Practice.Library
import StudyDesk.Proofs.Text.LowerCase

namespace StudyDesk.Library

/-!
Topic and needle are put in lower case apart, each as a whole.  So a problem is found when the one
lower case stands within the other, which is more than that the one text stands within the other only
for needles that are lower-cased alike wherever they stand.
-/

variable {library : Library} {needle longer : String}

theorem occursIn_eq_true_iff {needle text : List Char} :
    occursIn needle text = true ↔ needle <:+: text := by
  induction text with
  | nil => rw [occursIn, List.isEmpty_iff, List.infix_nil]
  | cons c rest ih =>
      rw [occursIn, Bool.or_eq_true, ih, List.isPrefixOf_iff_prefix, List.infix_cons_iff]

/-- A problem is found when the lower case of its topic holds that of the needle. -/
theorem mem_withTopic_iff {s : Summary} :
    s ∈ library.withTopic needle ↔
      s ∈ library.summaries ∧ (Text.lower needle).toList <:+: (Text.lower s.topic).toList := by
  rw [withTopic, List.mem_filter, occursIn_eq_true_iff, Text.lower, Text.lower,
    String.toList_ofList, String.toList_ofList]

/-- A problem that is found is found as often as it is listed. -/
theorem count_withTopic {s : Summary} (found : s ∈ library.withTopic needle) :
    (library.withTopic needle).count s = library.summaries.count s :=
  List.count_filter (List.mem_filter.mp found).2

theorem withTopic_empty (library : Library) : library.withTopic "" = library.summaries := by
  refine List.filter_eq_self.mpr fun s _ => occursIn_eq_true_iff.mpr ?_
  exact List.nil_infix

/-- The lower case of a steady needle stands in that of every text that has the needle. -/
theorem lower_infix_of_steady {text : String} (steady : Text.IsSteady needle.toList)
    (within : needle.toList <:+: text.toList) :
    (Text.lower needle).toList <:+: (Text.lower text).toList := by
  obtain ⟨before, after, split⟩ := within
  rw [Text.lower, Text.lower, String.toList_ofList, String.toList_ofList, ← split]
  exact Text.lowerChars_infix_of_steady steady before after

/-- Whatever the needle finds, a steady part of it finds as well. -/
theorem withTopic_sublist_of_steady (steady : Text.IsSteady needle.toList)
    (within : needle.toList <:+: longer.toList) (library : Library) :
    (library.withTopic longer).Sublist (library.withTopic needle) := by
  refine List.monotone_filter_right library.summaries fun s found => ?_
  rw [occursIn_eq_true_iff] at found ⊢
  have part := lower_infix_of_steady steady within
  rw [Text.lower, Text.lower, String.toList_ofList, String.toList_ofList] at part
  exact part.trans found

/-- A library of one problem. -/
def shelf (topic : String) : Library := ⟨"", [⟨"", "", topic, ""⟩], [], []⟩

/-- The only problem of a shelf is found by its whole topic. -/
theorem mem_withTopic_shelf (topic : String) :
    ⟨"", "", topic, ""⟩ ∈ (shelf topic).withTopic topic :=
  mem_withTopic_iff.mpr ⟨List.mem_singleton.mpr rfl, List.infix_rfl⟩

/-- A needle that is not steady misses a topic that has it. -/
theorem exists_topic_of_not_steady (unsteady : ¬ Text.IsSteady needle.toList) :
    ∃ topic : String, needle.toList <:+: topic.toList ∧
      ⟨"", "", topic, ""⟩ ∉ (shelf topic).withTopic needle := by
  obtain ⟨before, after, missed⟩ := Text.exists_surroundings_of_not_steady unsteady
  refine ⟨String.ofList (before ++ needle.toList ++ after), ?_, fun found => missed ?_⟩
  · rw [String.toList_ofList]
    exact List.infix_append _ _ _
  · have shown := (mem_withTopic_iff.mp found).2
    rwa [Text.lower, Text.lower, String.toList_ofList, String.toList_ofList,
      String.toList_ofList] at shown

/-! ### The law -/

/-- What holds of the search for a needle among the topics of any library. -/
structure TopicLaw (needle : String) : Prop where
  /-- What is found stands in the order of the list, -/
  sublist : ∀ library : Library, (library.withTopic needle).Sublist library.summaries
  /-- as often as it is listed; -/
  count : ∀ library : Library, ∀ s ∈ library.withTopic needle,
    (library.withTopic needle).count s = library.summaries.count s
  /-- it is found by the lower case of its topic alone. -/
  mem_iff : ∀ library : Library, ∀ s, s ∈ library.withTopic needle ↔
    s ∈ library.summaries ∧ (Text.lower needle).toList <:+: (Text.lower s.topic).toList
  /-- Every problem whose topic has the needle is found exactly if the needle is steady, -/
  literal_iff : (∀ library : Library, ∀ s ∈ library.summaries,
    needle.toList <:+: s.topic.toList → s ∈ library.withTopic needle) ↔
      Text.IsSteady needle.toList
  /-- and so it is with every problem that a longer needle finds. -/
  longer_iff : (∀ longer : String, needle.toList <:+: longer.toList → ∀ library : Library,
    (library.withTopic longer).Sublist (library.withTopic needle)) ↔
      Text.IsSteady needle.toList
  /-- The empty needle finds the whole list. -/
  empty : needle = "" → ∀ library : Library, library.withTopic needle = library.summaries

/-- The search for any needle obeys the law. -/
theorem withTopic_obeys_law (needle : String) : TopicLaw needle where
  sublist := fun _ => List.filter_sublist
  count := fun _ _ => count_withTopic
  mem_iff := fun _ _ => mem_withTopic_iff
  literal_iff := by
    constructor
    · intro finds
      by_contra unsteady
      obtain ⟨topic, within, missed⟩ := exists_topic_of_not_steady unsteady
      exact missed (finds (shelf topic) _ (List.mem_singleton.mpr rfl) within)
    · intro steady library s listed within
      exact mem_withTopic_iff.mpr ⟨listed, lower_infix_of_steady steady within⟩
  longer_iff := by
    constructor
    · intro finds
      by_contra unsteady
      obtain ⟨topic, within, missed⟩ := exists_topic_of_not_steady unsteady
      exact missed ((finds topic within (shelf topic)).subset (mem_withTopic_shelf topic))
    · exact fun steady longer within => withTopic_sublist_of_steady steady within
  empty := by
    rintro rfl
    exact withTopic_empty

/-- The problem with the topic `ΟΔΟΣΑ` is not found by `ΟΔΟΣ`: the last letter of the needle is a final
sigma, and in the topic it is none. -/
theorem withTopic_misses_sigma :
    ¬ ∀ (library : Library) (needle : String), ∀ s ∈ library.summaries,
      needle.toList <:+: s.topic.toList → s ∈ library.withTopic needle := by
  intro finds
  have missed : ⟨"", "", "ΟΔΟΣΑ", ""⟩ ∉ (shelf "ΟΔΟΣΑ").withTopic "ΟΔΟΣ" := by decide +kernel
  exact missed (finds (shelf "ΟΔΟΣΑ") "ΟΔΟΣ" _ (List.mem_singleton.mpr rfl) ⟨[], ['Α'], by decide⟩)

end StudyDesk.Library
