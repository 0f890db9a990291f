/-
Module: StudyDesk.Proofs.Url.Paths
Purpose: A path in normal form stays as it is when it is brought into normal form again, and the slashes
  at its end do not change what is left without them.
Main exports:
  IsSegment, exists_segments, normalizePath_joinSegments, splitSegments_append_slash, slashes,
  exists_front_of_slashes
-/
import Mathlib.Tactic.SplitIfs
import StudyDesk.Url.Parser

namespace StudyDesk

/-! ### Encoded text -/

namespace Percent

variable {encoded : Char → Bool} {c : Char} {cs : List Char}

/-- A text of which the part keeps every character is not changed. -/
theorem encode_eq_self (kept : ∀ c ∈ cs, encoded c = false) : encode encoded cs = cs := by
  induction cs with
  | nil => rfl
  | cons c cs ih =>
      have rest := ih fun d member => kept d (List.mem_cons_of_mem c member)
      rw [encode, List.flatMap_cons, ← encode, rest, encodeChar, kept c List.mem_cons_self]
      rfl

/-- An encoded byte is written in characters that stay in a segment of a path. -/
theorem kept_of_mem_encodeByte {b : UInt8} (member : c ∈ encodeByte b) :
    inPath c = false ∧ c ≠ '/' ∧ c ≠ '\\' := by
  have digits : ∀ d < 16, inPath (Nat.digitChar d).toUpper = false ∧
      (Nat.digitChar d).toUpper ≠ '/' ∧ (Nat.digitChar d).toUpper ≠ '\\' := by decide
  have high : b.toNat / 16 < 16 := by
    have := b.toNat_lt
    omega
  simp only [encodeByte, List.mem_cons, List.not_mem_nil, or_false] at member
  rcases member with rfl | rfl | rfl
  · decide
  · exact digits _ high
  · exact digits _ (Nat.mod_lt _ (by decide))

end Percent

namespace Url

variable {cs : List Char} {segment : List Char} {segments done : List (List Char)}

/-! ### Segments -/

/-- Text without a slash of either kind. -/
def IsUndivided (cs : List Char) : Prop := ∀ c ∈ cs, c ≠ '/' ∧ c ≠ '\\'

/-- A segment of a path in normal form: nothing in it has to be encoded, and it is no dot. -/
structure IsSegment (segment : List Char) : Prop where
  undivided : IsUndivided segment
  kept : ∀ c ∈ segment, Percent.inPath c = false
  notSingle : isSingleDot segment = false
  notDouble : isDoubleDot segment = false

theorem isSegment_nil : IsSegment [] where
  undivided := nofun
  kept := nofun
  notSingle := rfl
  notDouble := rfl

theorem splitSegments_ne_nil (cs : List Char) : splitSegments cs ≠ [] := by
  cases cs with
  | nil => exact List.cons_ne_nil _ _
  | cons c rest =>
      rw [splitSegments]
      split_ifs
      · exact List.cons_ne_nil _ _
      · split
        · exact List.cons_ne_nil _ _
        · exact List.cons_ne_nil _ _

/-- A slash divides a text into the segments before it and those after it. -/
theorem splitSegments_append_slash (cs rest : List Char) :
    splitSegments (cs ++ '/' :: rest) = splitSegments cs ++ splitSegments rest := by
  induction cs with
  | nil => rfl
  | cons c cs ih =>
      rw [List.cons_append, splitSegments, splitSegments, ih]
      split_ifs with slash
      · rfl
      · cases parts : splitSegments cs with
        | nil => exact absurd parts (splitSegments_ne_nil cs)
        | cons part parts => rfl

theorem splitSegments_of_isUndivided (undivided : IsUndivided cs) : splitSegments cs = [cs] := by
  induction cs with
  | nil => rfl
  | cons c cs ih =>
      obtain ⟨notSlash, rest⟩ := List.forall_mem_cons.mp undivided
      simp [splitSegments, ih rest, notSlash]

theorem isUndivided_of_mem_splitSegments (member : segment ∈ splitSegments cs) :
    IsUndivided segment := by
  induction cs generalizing segment with
  | nil =>
      rw [splitSegments, List.mem_singleton] at member
      subst member
      exact nofun
  | cons c cs ih =>
      rw [splitSegments] at member
      split_ifs at member with slash
      · rcases List.mem_cons.mp member with rfl | later
        · exact nofun
        · exact ih later
      · have notSlash : c ≠ '/' ∧ c ≠ '\\' := by simpa using slash
        cases parts : splitSegments cs with
        | nil => exact absurd parts (splitSegments_ne_nil cs)
        | cons part parts' =>
            rw [parts] at member ih
            rcases List.mem_cons.mp member with rfl | later
            · exact List.forall_mem_cons.mpr ⟨notSlash, ih List.mem_cons_self⟩
            · exact ih (List.mem_cons_of_mem part later)

/-- A segment keeps its characters when it is encoded, and those that it does not keep leave nothing
in it that would divide it. -/
theorem encode_undivided (undivided : IsUndivided cs) :
    IsUndivided (Percent.encode Percent.inPath cs) ∧
      ∀ c ∈ Percent.encode Percent.inPath cs, Percent.inPath c = false := by
  have both : ∀ c ∈ Percent.encode Percent.inPath cs,
      Percent.inPath c = false ∧ c ≠ '/' ∧ c ≠ '\\' := by
    intro c member
    obtain ⟨d, isPart, member⟩ := List.mem_flatMap.mp member
    rw [Percent.encodeChar] at member
    split_ifs at member with encoded
    · obtain ⟨b, -, member⟩ := List.mem_flatMap.mp member
      exact Percent.kept_of_mem_encodeByte member
    · obtain rfl := List.mem_singleton.mp member
      exact ⟨Bool.eq_false_iff.mpr encoded, undivided c isPart⟩
  exact ⟨fun c member => (both c member).2, fun c member => (both c member).1⟩

/-! ### Dots -/

/-- A segment that names no place of its own. -/
def isDots (segment : List Char) : Bool := isSingleDot segment || isDoubleDot segment

/-- The segments that stay when one more of them has been followed. -/
def follow (done : List (List Char)) (segment : List Char) : List (List Char) :=
  if isDoubleDot segment then
    match done with
    | [] => []
    | last :: before => if isDriveLetter last then done else before
  else if isSingleDot segment then done
  else segment :: done

theorem followDots_singleton (done : List (List Char)) (segment : List Char) :
    followDots done [segment] =
      (follow done segment).reverse ++ if isDots segment then [[]] else [] := by
  unfold followDots follow isDots
  split_ifs <;> grind

theorem followDots_cons (done : List (List Char)) (segment second : List Char)
    (rest : List (List Char)) :
    followDots done (segment :: second :: rest) =
      followDots (follow done segment) (second :: rest) := by
  rw [followDots.eq_def]
  unfold follow
  dsimp only
  split_ifs
  · cases done with
    | nil => rfl
    | cons last before =>
        dsimp only
        split_ifs <;> rfl
  · rfl
  · rfl

/-- Segments without dots are not changed when the dots are followed. -/
theorem followDots_of_isSegment (done : List (List Char))
    (normal : ∀ segment ∈ segments, IsSegment segment) :
    followDots done segments = done.reverse ++ segments := by
  induction segments generalizing done with
  | nil => rw [followDots, List.append_nil]
  | cons segment rest ih =>
      obtain ⟨first, others⟩ := List.forall_mem_cons.mp normal
      have pushed : follow done segment = segment :: done := by
        simp [follow, first.notSingle, first.notDouble]
      cases rest with
      | nil => simp [followDots_singleton, pushed, isDots, first.notSingle, first.notDouble]
      | cons second rest =>
          rw [followDots_cons, pushed, ih (segment :: done) others, List.reverse_cons,
            List.append_assoc, List.singleton_append]

theorem isSegment_of_mem_follow (normal : ∀ segment ∈ done, IsSegment segment)
    (undivided : IsUndivided segment) (kept : ∀ c ∈ segment, Percent.inPath c = false)
    {stays : List Char} (member : stays ∈ follow done segment) : IsSegment stays := by
  unfold follow at member
  split_ifs at member with double single
  · cases done with
    | nil => cases member
    | cons last before =>
        dsimp only at member
        split_ifs at member
        · exact normal stays member
        · exact normal stays (List.mem_cons_of_mem last member)
  · exact normal stays member
  · rcases List.mem_cons.mp member with rfl | old
    · exact ⟨undivided, kept, Bool.eq_false_iff.mpr single, Bool.eq_false_iff.mpr double⟩
    · exact normal stays old

/-- No dots are left when they have been followed. -/
theorem isSegment_of_mem_followDots (normal : ∀ segment ∈ done, IsSegment segment)
    (encoded : ∀ segment ∈ segments,
      IsUndivided segment ∧ ∀ c ∈ segment, Percent.inPath c = false)
    (member : segment ∈ followDots done segments) : IsSegment segment := by
  induction segments generalizing done with
  | nil => exact normal segment (List.mem_reverse.mp member)
  | cons first rest ih =>
      obtain ⟨⟨undivided, kept⟩, encoded⟩ := List.forall_mem_cons.mp encoded
      have normal : ∀ segment ∈ follow done first, IsSegment segment := fun _ =>
        isSegment_of_mem_follow normal undivided kept
      cases rest with
      | nil =>
          rw [followDots_singleton] at member
          rcases List.mem_append.mp member with stays | empty
          · exact normal segment (List.mem_reverse.mp stays)
          · split_ifs at empty
            · obtain rfl := List.mem_singleton.mp empty
              exact isSegment_nil
            · cases empty
      | cons second rest =>
          rw [followDots_cons] at member
          exact ih normal encoded member

theorem followDots_ne_nil (done : List (List Char)) (nonempty : segments ≠ []) :
    followDots done segments ≠ [] := by
  induction segments generalizing done with
  | nil => exact absurd rfl nonempty
  | cons segment rest ih =>
      cases rest with
      | nil =>
          rw [followDots_singleton]
          unfold follow isDots
          split_ifs <;> simp_all
      | cons second rest =>
          rw [followDots_cons]
          exact ih _ (List.cons_ne_nil _ _)

/-! ### Normal form -/

theorem joinSegments_append (segments others : List (List Char)) :
    joinSegments (segments ++ others) = joinSegments segments ++ joinSegments others :=
  List.flatMap_append

/-- A written path falls into its segments behind its first slash. -/
theorem splitSegments_joinSegments (undivided : IsUndivided segment)
    (others : ∀ segment ∈ segments, IsUndivided segment) :
    splitSegments (segment ++ joinSegments segments) = segment :: segments := by
  induction segments generalizing segment with
  | nil => rw [joinSegments, List.flatMap_nil, List.append_nil, splitSegments_of_isUndivided undivided]
  | cons second rest ih =>
      obtain ⟨second_undivided, others⟩ := List.forall_mem_cons.mp others
      rw [joinSegments, List.flatMap_cons, ← joinSegments, List.cons_append,
        splitSegments_append_slash, splitSegments_of_isUndivided undivided,
        ih second_undivided others, List.singleton_append]

/-- A path behind the slash that it begins with. -/
def belowRoot : List Char → List Char
  | '/' :: rest => rest
  | '\\' :: rest => rest
  | rest => rest

theorem normalizePath_eq (cs : List Char) :
    normalizePath cs =
      joinSegments
        (followDots [] ((splitSegments (belowRoot cs)).map (Percent.encode Percent.inPath))) :=
  rfl

/-- A path in normal form is brought into normal form already. -/
theorem normalizePath_joinSegments (nonempty : segments ≠ [])
    (normal : ∀ segment ∈ segments, IsSegment segment) :
    normalizePath (joinSegments segments) = joinSegments segments := by
  cases segments with
  | nil => exact absurd rfl nonempty
  | cons segment rest =>
      obtain ⟨first, others⟩ := List.forall_mem_cons.mp normal
      have below : belowRoot (joinSegments (segment :: rest)) = segment ++ joinSegments rest := rfl
      have parts := splitSegments_joinSegments first.undivided fun s member =>
        (others s member).undivided
      have encoded : (segment :: rest).map (Percent.encode Percent.inPath) = segment :: rest :=
        (List.map_congr_left fun s member => Percent.encode_eq_self (normal s member).kept).trans
          (List.map_id _)
      rw [normalizePath_eq, below, parts, encoded, followDots_of_isSegment [] normal,
        List.reverse_nil, List.nil_append]

/-- Every path in normal form is written in segments. -/
theorem exists_segments (cs : List Char) :
    ∃ segments, segments ≠ [] ∧ (∀ segment ∈ segments, IsSegment segment) ∧
      normalizePath cs = joinSegments segments := by
  refine ⟨_, ?_, ?_, normalizePath_eq cs⟩
  · apply followDots_ne_nil
    rw [ne_eq, List.map_eq_nil_iff]
    exact splitSegments_ne_nil _
  · intro segment member
    refine isSegment_of_mem_followDots (List.forall_mem_nil _) ?_ member
    intro encoded listed
    obtain ⟨part, isPart, rfl⟩ := List.mem_map.mp listed
    exact encode_undivided (isUndivided_of_mem_splitSegments isPart)

/-! ### Slashes at the end -/

/-- So many slashes. -/
def slashes (count : Nat) : List Char := List.replicate count '/'

/-- Segments that are empty are written as slashes. -/
theorem joinSegments_replicate_nil (count : Nat) :
    joinSegments (List.replicate count []) = slashes count := by
  induction count with
  | zero => rfl
  | succ count ih =>
      rw [List.replicate_succ, joinSegments, List.flatMap_cons, ← joinSegments, ih]
      rfl

/-- Slashes at the end of a text are further segments, all empty. -/
theorem splitSegments_append_slashes (cs : List Char) (count : Nat) :
    splitSegments (cs ++ slashes count) = splitSegments cs ++ List.replicate count [] := by
  induction count generalizing cs with
  | zero => rw [slashes, List.replicate_zero, List.append_nil, List.replicate_zero, List.append_nil]
  | succ count ih =>
      have empty := ih []
      rw [List.nil_append] at empty
      rw [slashes, List.replicate_succ, ← slashes, splitSegments_append_slash, empty]
      rfl

theorem isSegment_of_mem_replicate {count : Nat} (member : segment ∈ List.replicate count []) :
    IsSegment segment := by
  rw [List.eq_of_mem_replicate member]
  exact isSegment_nil

/-- Further segments that are empty only put slashes behind what stays of those before them. -/
theorem exists_front_of_followDots (done : List (List Char)) (nonempty : segments ≠ [])
    (count : Nat) :
    ∃ front first second, followDots done segments = front ++ List.replicate first [] ∧
      followDots done (segments ++ List.replicate count []) =
        front ++ List.replicate second [] := by
  induction segments generalizing done with
  | nil => exact absurd rfl nonempty
  | cons segment rest ih =>
      cases rest with
      | cons second rest =>
          rw [List.cons_append, List.cons_append, followDots_cons, followDots_cons]
          exact ih _ (List.cons_ne_nil _ _)
      | nil =>
          obtain ⟨first, alone⟩ : ∃ first, followDots done [segment] =
              (follow done segment).reverse ++ List.replicate first [] := by
            rw [followDots_singleton]
            cases isDots segment
            · exact ⟨0, rfl⟩
            · exact ⟨1, rfl⟩
          cases count with
          | zero =>
              rw [List.replicate_zero, List.append_nil]
              exact ⟨_, first, first, alone, alone⟩
          | succ count =>
              refine ⟨_, first, count + 1, alone, ?_⟩
              rw [← followDots_of_isSegment _ fun _ => isSegment_of_mem_replicate,
                List.replicate_succ, List.singleton_append, followDots_cons]

theorem belowRoot_append (nonempty : cs ≠ []) (rest : List Char) :
    belowRoot (cs ++ rest) = belowRoot cs ++ rest := by
  cases cs with
  | nil => exact absurd rfl nonempty
  | cons c cs =>
      by_cases slash : c = '/'
      · subst slash
        rfl
      · by_cases backslash : c = '\\'
        · subst backslash
          rfl
        · simp [belowRoot, slash, backslash]

/-- Slashes at the end of a path only put slashes behind its normal form. -/
theorem exists_front_of_slashes (cs : List Char) (count : Nat) :
    ∃ front first second, normalizePath cs = front ++ slashes first ∧
      normalizePath (cs ++ slashes count) = front ++ slashes second := by
  by_cases empty : cs = []
  · subst empty
    cases count with
    | zero => exact ⟨[], 1, 1, rfl, rfl⟩
    | succ count =>
        refine ⟨[], 1, count + 1, rfl, ?_⟩
        rw [List.nil_append, ← joinSegments_replicate_nil,
          normalizePath_joinSegments (List.replicate_succ ▸ List.cons_ne_nil _ _)
            fun _ => isSegment_of_mem_replicate]
  · obtain ⟨front, first, second, plain, further⟩ := exists_front_of_followDots []
      (mt List.map_eq_nil_iff.mp (splitSegments_ne_nil (belowRoot cs))) count
    refine ⟨joinSegments front, first, second, ?_, ?_⟩
    · rw [normalizePath_eq, plain, joinSegments_append, joinSegments_replicate_nil]
    · rw [normalizePath_eq, belowRoot_append empty, splitSegments_append_slashes, List.map_append,
        List.map_replicate, show Percent.encode Percent.inPath [] = [] from rfl, further,
        joinSegments_append, joinSegments_replicate_nil]

end Url

end StudyDesk
