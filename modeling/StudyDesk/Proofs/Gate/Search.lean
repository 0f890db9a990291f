/-
Module: StudyDesk.Proofs.Gate.Search
Purpose: The one pass of a gate over a text finds the term that ends first, and of those that end
  there the longest.
Main exports:
  Gate.LongestEnds, Gate.best_longestEnding, Gate.first_findAfter, Gate.EndsFirst,
  Gate.find_eq_none_iff, Gate.find_eq_some_iff
-/
import Mathlib.Data.List.Infix
import StudyDesk.Gate

namespace StudyDesk.Gate

/-!
The search holds the text so far with its last character first, and each term in the same direction.
So a term ends where the text so far ends when it is a prefix of that.  A pair of a term and its
characters from the last on is what the search works with.
-/

variable {terms : List (String × List Char)} {seen text : List Char}

/-! ### One place -/

/-- No term ends where the text so far ends. -/
def NoneEnds (terms : List (String × List Char)) (seen : List Char) : Prop :=
  ∀ term ∈ terms, ¬ term.2 <+: seen

/-- The longest of the terms that end where the text so far ends. -/
structure LongestEnds (terms : List (String × List Char)) (seen : List Char)
    (found : String × List Char) : Prop where
  isTerm : found ∈ terms
  ends : found.2 <+: seen
  longest : ∀ term ∈ terms, term.2 <+: seen → term.2.length ≤ found.2.length

/-- What is known of the terms that have been looked at. -/
def Best (terms : List (String × List Char)) (seen : List Char) :
    Option (String × List Char) → Prop
  | none => NoneEnds terms seen
  | some found => LongestEnds terms seen found

/-- The better of what was found and another term, where the text so far is `seen`. -/
def better (seen : List Char) (best : Option (String × List Char)) (term : String × List Char) :
    Option (String × List Char) :=
  if term.2.isPrefixOf seen then
    match best with
    | none => some term
    | some other => if other.2.length < term.2.length then some term else best
  else best

theorem longestEnding_eq_foldl (terms : List (String × List Char)) (seen : List Char) :
    longestEnding terms seen = terms.foldl (better seen) none := rfl

/-- A term that does not end here changes nothing. -/
theorem Best.skip {best : Option (String × List Char)} (known : Best terms seen best)
    {term : String × List Char} (misses : ¬ term.2 <+: seen) : Best (terms ++ [term]) seen best := by
  cases best with
  | none =>
      show NoneEnds (terms ++ [term]) seen
      exact List.forall_mem_append.mpr ⟨known, List.forall_mem_singleton.mpr misses⟩
  | some found =>
      refine ⟨List.mem_append_left _ known.isTerm, known.ends, List.forall_mem_append.mpr ?_⟩
      exact ⟨known.longest, List.forall_mem_singleton.mpr fun ends => absurd ends misses⟩

/-- Looking at one more term keeps what is known. -/
theorem Best.better {best : Option (String × List Char)} (known : Best terms seen best)
    (term : String × List Char) : Best (terms ++ [term]) seen (better seen best term) := by
  unfold Gate.better
  by_cases ends : term.2 <+: seen
  · rw [if_pos (List.isPrefixOf_iff_prefix.mpr ends)]
    have listed : term ∈ terms ++ [term] := List.mem_append_right _ List.mem_cons_self
    cases best with
    | none =>
        refine ⟨listed, ends, List.forall_mem_append.mpr ⟨?_, ?_⟩⟩
        · intro other before otherEnds
          exact absurd otherEnds (known other before)
        · exact List.forall_mem_singleton.mpr fun _ => Nat.le_refl _
    | some found =>
        dsimp only
        split_ifs with longer
        · refine ⟨listed, ends, List.forall_mem_append.mpr ⟨?_, ?_⟩⟩
          · intro other before otherEnds
            exact (known.longest other before otherEnds).trans longer.le
          · exact List.forall_mem_singleton.mpr fun _ => Nat.le_refl _
        · refine ⟨List.mem_append_left _ known.isTerm, known.ends,
            List.forall_mem_append.mpr ⟨known.longest, ?_⟩⟩
          exact List.forall_mem_singleton.mpr fun _ => Nat.le_of_not_lt longer
  · rw [if_neg (mt List.isPrefixOf_iff_prefix.mp ends)]
    exact known.skip ends

/-- So does looking at all the others. -/
theorem Best.foldl {best : Option (String × List Char)} (known : Best terms seen best)
    (others : List (String × List Char)) :
    Best (terms ++ others) seen (others.foldl (Gate.better seen) best) := by
  induction others generalizing terms best with
  | nil =>
      rw [List.append_nil]
      exact known
  | cons term rest ih =>
      have later := ih (known.better term)
      rw [List.append_assoc, List.singleton_append] at later
      exact later

theorem best_longestEnding (terms : List (String × List Char)) (seen : List Char) :
    Best terms seen (longestEnding terms seen) := by
  have start : Best [] seen none := fun _ listed => absurd listed List.not_mem_nil
  rw [longestEnding_eq_foldl]
  exact start.foldl terms

/-! ### All places -/

/-- What a search in the rest of a text says: no term ends anywhere, or the first end of one. -/
def First (terms : List (String × List Char)) (seen text : List Char) : Option String → Prop
  | none => ∀ front, front ≠ [] → front <+: text → NoneEnds terms (front.reverse ++ seen)
  | some name => ∃ front term, front ≠ [] ∧ front <+: text ∧
      LongestEnds terms (front.reverse ++ seen) term ∧ term.1 = name ∧
      ∀ earlier, earlier ≠ [] → earlier <+: text → earlier.length < front.length →
        NoneEnds terms (earlier.reverse ++ seen)

/-- The places in a text are the one behind its first character and those in its rest. -/
theorem noneEnds_cons {c : Char} (here : NoneEnds terms (c :: seen)) {front : List Char}
    (nonempty : front ≠ []) (within : front <+: c :: text)
    (later : ∀ more, more ≠ [] → front = c :: more → more <+: text →
      NoneEnds terms (more.reverse ++ c :: seen)) :
    NoneEnds terms (front.reverse ++ seen) := by
  obtain ⟨d, more, rfl⟩ := List.exists_cons_of_ne_nil nonempty
  obtain ⟨rfl, more_prefix⟩ := List.cons_prefix_cons.mp within
  rw [List.reverse_cons, List.append_assoc, List.singleton_append]
  by_cases last : more = []
  · rw [last]
    exact here
  · exact later more last rfl more_prefix

theorem first_findAfter (terms : List (String × List Char)) (seen text : List Char) :
    First terms seen text (findAfter terms seen text) := by
  induction text generalizing seen with
  | nil =>
      intro front nonempty within
      exact absurd (List.prefix_nil.mp within) nonempty
  | cons c rest ih =>
      have best := best_longestEnding terms (c :: seen)
      rw [findAfter]
      cases here : longestEnding terms (c :: seen) with
      | some term =>
          rw [here] at best
          refine ⟨[c], term, List.cons_ne_nil c [], ⟨rest, rfl⟩, best, rfl, ?_⟩
          intro earlier nonempty _ shorter
          exact absurd (List.length_eq_zero_iff.mp (Nat.lt_one_iff.mp shorter)) nonempty
      | none =>
          rw [here] at best
          have later := ih (c :: seen)
          dsimp only
          cases found : findAfter terms (c :: seen) rest with
          | none =>
              rw [found] at later
              intro front nonempty within
              apply noneEnds_cons best nonempty within
              intro more someMore _ inRest
              exact later more someMore inRest
          | some name =>
              rw [found] at later
              obtain ⟨front, term, nonempty, within, longest, named, first⟩ := later
              refine ⟨c :: front, term, List.cons_ne_nil c front,
                List.cons_prefix_cons.mpr ⟨rfl, within⟩, ?_, named, ?_⟩
              · rw [List.reverse_cons, List.append_assoc, List.singleton_append]
                exact longest
              · intro earlier someEarlier inText shorter
                apply noneEnds_cons best someEarlier inText
                rintro more someMore rfl inRest
                exact first more someMore inRest (Nat.lt_of_succ_lt_succ shorter)

/-! ### Whole texts -/

/-- A term ends at the end of `front`, a first part of the text; no term ends before, and no longer one
ends there. -/
structure EndsFirst (terms : List String) (text front : List Char) (found : String) : Prop where
  isTerm : found ∈ terms
  within : front <+: text
  ends : found.toList <:+ front
  earliest : ∀ term ∈ terms, ∀ other, other <+: text → term.toList <:+ other →
    front.length ≤ other.length
  longest : ∀ term ∈ terms, term.toList <:+ front → term.toList.length ≤ found.toList.length

/-- There is one such term. -/
theorem EndsFirst.unique {terms : List String} {text front front' : List Char}
    {found found' : String} (one : EndsFirst terms text front found)
    (two : EndsFirst terms text front' found') : found = found' := by
  have before := one.earliest found' two.isTerm front' two.within two.ends
  have behind := two.earliest found one.isTerm front one.within one.ends
  have samePlace : front = front' :=
    List.IsPrefix.eq_of_length (List.prefix_of_prefix_length_le one.within two.within before)
      (Nat.le_antisymm before behind)
  subst samePlace
  have shorter := two.longest found one.isTerm one.ends
  have longer := one.longest found' two.isTerm two.ends
  have sameTerm : found.toList = found'.toList :=
    List.IsSuffix.eq_of_length (List.suffix_of_suffix_length_le one.ends two.ends shorter)
      (Nat.le_antisymm shorter longer)
  exact String.toList_inj.mp sameTerm

theorem noneEnds_backwards_iff {terms : List String} {front : List Char} :
    NoneEnds (terms.map backwards) (front.reverse ++ []) ↔
      ∀ term ∈ terms, ¬ term.toList <:+ front := by
  rw [NoneEnds, List.forall_mem_map, List.append_nil]
  simp only [backwards, List.reverse_prefix]

/-- A term that is found ends first. -/
theorem endsFirst_of_find {gate : Gate} (nonempty : ∀ term ∈ gate.terms, term ≠ "")
    {query found : String} (finds : gate.find query = some found) :
    ∃ front, EndsFirst gate.terms (Text.lowerChars query.toList) front found := by
  have first := first_findAfter (gate.terms.map backwards) [] (Text.lowerChars query.toList)
  rw [find] at finds
  rw [finds] at first
  obtain ⟨front, term, -, within, longest, named, none⟩ := first
  obtain ⟨name, isTerm, rfl⟩ := List.mem_map.mp longest.isTerm
  obtain rfl : name = found := named
  have ends := longest.ends
  rw [List.append_nil] at ends
  refine ⟨front, isTerm, within, List.reverse_prefix.mp ends, ?_, ?_⟩
  · intro other listed place inText otherEnds
    by_contra shorter
    have somePlace : place ≠ [] := by
      rintro rfl
      exact nonempty other listed (String.toList_eq_nil_iff.mp (List.suffix_nil.mp otherEnds))
    have missed := noneEnds_backwards_iff.mp (none place somePlace inText (Nat.lt_of_not_le shorter))
    exact missed other listed otherEnds
  · intro other listed otherEnds
    have notLonger := longest.longest (backwards other) (List.mem_map_of_mem listed)
    rw [List.append_nil] at notLonger
    simpa [backwards] using notLonger (List.reverse_prefix.mpr otherEnds)

/-- A gate lets a question through when no term shows in its lower case. -/
theorem find_eq_none_iff {gate : Gate} (nonempty : ∀ term ∈ gate.terms, term ≠ "")
    (query : String) :
    gate.find query = none ↔
      ∀ term ∈ gate.terms, ¬ term.toList <:+: Text.lowerChars query.toList := by
  constructor
  · rintro missed term isTerm ⟨before, after, text⟩
    have first := first_findAfter (gate.terms.map backwards) [] (Text.lowerChars query.toList)
    rw [find] at missed
    rw [missed] at first
    have someEnd : before ++ term.toList ≠ [] := by
      have := mt String.toList_eq_nil_iff.mp (nonempty term isTerm)
      simp [this]
    have none := noneEnds_backwards_iff.mp (first (before ++ term.toList) someEnd ⟨after, text⟩)
    exact none term isTerm ⟨before, rfl⟩
  · intro missed
    by_contra finds
    obtain ⟨found, finds⟩ := Option.ne_none_iff_exists'.mp finds
    obtain ⟨front, first⟩ := endsFirst_of_find nonempty finds
    exact missed found first.isTerm (first.ends.isInfix.trans first.within.isInfix)

/-- Otherwise it reports the term that ends first. -/
theorem find_eq_some_iff {gate : Gate} (nonempty : ∀ term ∈ gate.terms, term ≠ "")
    {query found : String} :
    gate.find query = some found ↔
      ∃ front, EndsFirst gate.terms (Text.lowerChars query.toList) front found := by
  constructor
  · exact endsFirst_of_find nonempty
  · rintro ⟨front, first⟩
    cases finds : gate.find query with
    | none =>
        have missed := (find_eq_none_iff nonempty query).mp finds
        exact absurd (first.ends.isInfix.trans first.within.isInfix) (missed found first.isTerm)
    | some other =>
        obtain ⟨place, otherFirst⟩ := endsFirst_of_find nonempty finds
        rw [otherFirst.unique first]

end StudyDesk.Gate
