/-
Module: StudyDesk.Proofs.Json.Unambiguous
Purpose: No JSON text can be taken apart in two ways.
Main exports:
  IsValue.unique, Arranged.unique, IsArray.unique, IsObject.unique
-/
import StudyDesk.Proofs.Json.Outline

namespace StudyDesk.Json

variable {isFirst : Bool} {c : Char} {cs gap core content inner more rest : List Char}

/-! ### Gaps, strings and values -/

theorem IsGap.unique {gap' more' : List Char} (blank : IsGap gap) (blank' : IsGap gap')
    (shown : skipBlanks more = more) (shown' : skipBlanks more' = more')
    (same : gap ++ more = gap' ++ more') : gap = gap' ∧ more = more' := by
  have rests := congrArg skipBlanks same
  rw [skipBlanks_append blank, skipBlanks_append blank', shown, shown'] at rests
  subst rests
  exact ⟨List.append_cancel_right same, rfl⟩

theorem IsBody.unique {body body' more' : List Char} (isBody : IsBody body) (isBody' : IsBody body')
    (same : body ++ '"' :: more = body' ++ '"' :: more') : body = body' ∧ more = more' := by
  have rests := skipBody_append isBody more
  rw [same, skipBody_append isBody' more'] at rests
  obtain rfl := Except.ok.inj rests
  exact ⟨List.append_cancel_right same, rfl⟩

/-- Where a value ends is settled by its text. -/
theorem IsValue.unique {core' more' : List Char} (isValue : IsValue core)
    (isValue' : IsValue core') (ends : EndsNumber more) (ends' : EndsNumber more')
    (same : core ++ more = core' ++ more') : core = core' ∧ more = more' := by
  have blank : IsGap [] := List.forall_mem_nil _
  have rests := skipValue_append isValue blank ends
  rw [same, skipValue_append isValue' blank ends'] at rests
  obtain rfl := Except.ok.inj rests
  exact ⟨List.append_cancel_right same, rfl⟩

theorem Member.IsFramed.unique {member member' : Member} {more' : List Char}
    (framed : member.IsFramed) (framed' : member'.IsFramed) (isValue : IsValue member.value)
    (isValue' : IsValue member'.value) (ends : EndsNumber more) (ends' : EndsNumber more')
    (same : member.text ++ more = member'.text ++ more') : member = member' ∧ more = more' := by
  have notSpace : isSpace ':' = false := by decide
  have shown := skipBlanks_value isValue (List.forall_mem_nil _) more
  have shown' := skipBlanks_value isValue' (List.forall_mem_nil _) more'
  simp only [Member.text, List.cons_append, List.append_assoc, List.cons.injEq, true_and] at same
  obtain ⟨sameName, behindName⟩ := framed.name.unique framed'.name same
  obtain ⟨sameBefore, colon⟩ := framed.before.unique framed'.before (skipBlanks_cons notSpace _)
    (skipBlanks_cons notSpace _) behindName
  obtain ⟨sameAfter, behindColon⟩ :=
    framed.after.unique framed'.after shown shown' (List.cons.inj colon).2
  obtain ⟨sameValue, sameMore⟩ := isValue.unique isValue' ends ends' behindColon
  exact ⟨Member.ext sameName sameBefore sameAfter sameValue, sameMore⟩

/-- Where a container ends it has no further part. -/
theorem PartAt.eq_of_shown {d : Char} (part : PartAt isFirst cs (c :: inner))
    (shown : skipBlanks cs = d :: rest) (notComma : d ≠ ',') : c = d := by
  cases part with
  | first begins => exact (List.cons.inj (begins.symm.trans shown)).1
  | next comma _ => exact absurd (List.cons.inj (shown.symm.trans comma)).1 notComma

section Arrangements

variable {α : Type} {text : α → List Char} {fits : α → Prop} {parts : List α} {frame : Frame}

/-- The end of a container shows, or its next part does. -/
theorem Arranged.shown (begins : ∀ {part}, fits part → Begins frame (text part))
    (arranged : Arranged text isFirst parts content) (fit : ∀ part ∈ parts, fits part)
    (more : List Char) :
    (parts = [] ∧ skipBlanks (content ++ frame.closer :: more) = frame.closer :: more) ∨
      ∃ part others inner, parts = part :: others ∧ Arranged text false others inner ∧
        skipBlanks (content ++ frame.closer :: more) ≠ frame.closer :: more ∧
        PartAt isFirst (content ++ frame.closer :: more)
          (text part ++ (inner ++ frame.closer :: more)) := by
  cases arranged with
  | close blank =>
      refine .inl ⟨rfl, ?_⟩
      rw [skipBlanks_append blank, skipBlanks_cons frame.closer_ends.1]
  | @cons _ front inner part others lead arranged =>
      obtain ⟨c, rest, same, notSpace, notClose⟩ := begins (fit part List.mem_cons_self)
      have here := lead.partAt notSpace (rest ++ (inner ++ frame.closer :: more))
      have notComma : frame.closer ≠ ',' := by cases frame <;> decide
      refine .inr ⟨part, others, inner, rfl, arranged, ?_⟩
      simp only [same, List.append_assoc, List.cons_append]
      exact ⟨fun close => notClose (here.eq_of_shown close notComma), here⟩

/-- Where the parts of a container end is settled by its text, when that is so for each of them. -/
theorem Arranged.unique (frame : Frame) (begins : ∀ {part}, fits part → Begins frame (text part))
    (sharp : ∀ {one two more more'}, fits one → fits two → EndsNumber more → EndsNumber more' →
      text one ++ more = text two ++ more' → one = two ∧ more = more')
    {parts' : List α} {content' : List Char} (arranged : Arranged text isFirst parts content)
    (fit : ∀ part ∈ parts, fits part) (arranged' : Arranged text isFirst parts' content')
    (fit' : ∀ part ∈ parts', fits part)
    (same : content ++ frame.closer :: more = content' ++ frame.closer :: more) :
    parts = parts' := by
  induction parts generalizing isFirst content parts' content' with
  | nil =>
      rcases arranged.shown begins fit more with ⟨-, shown⟩ | ⟨_, _, _, cons, -⟩
      · rcases arranged'.shown begins fit' more with ⟨nil, -⟩ | ⟨_, _, _, -, -, opens, -⟩
        · exact nil.symm
        · exact absurd (same ▸ shown) opens
      · cases cons
  | cons part parts ih =>
      rcases arranged.shown begins fit more with
        ⟨nil, -⟩ | ⟨_, _, inner, cons, arranged, opens, starts⟩
      · cases nil
      · obtain ⟨rfl, rfl⟩ := List.cons.inj cons
        rcases arranged'.shown begins fit' more with
          ⟨-, shown⟩ | ⟨part', others, inner', rfl, later', -, starts'⟩
        · exact absurd (same ▸ shown) opens
        · obtain ⟨fits, fit⟩ := List.forall_mem_cons.mp fit
          obtain ⟨fits', others'⟩ := List.forall_mem_cons.mp fit'
          obtain ⟨rfl, rests⟩ := sharp fits fits' (arranged.endsNumber frame.closer_ends.2 more)
            (later'.endsNumber frame.closer_ends.2 more) (starts.functional (same ▸ starts'))
          rw [ih arranged fit later' others' rests]

end Arrangements

/-- The text of an array settles its items. -/
theorem IsArray.unique {items items' : List (List Char)} (isArray : IsArray items core)
    (isArray' : IsArray items' core) : items = items' := by
  obtain ⟨arranged, inner⟩ := isArray
  generalize shown : '[' :: _ = core at isArray'
  obtain ⟨arranged', inner'⟩ := isArray'
  exact Arranged.unique .list IsValue.head IsValue.unique arranged inner arranged' inner'
    (List.cons.inj shown).2

/-- The text of an object settles its members. -/
theorem IsObject.unique {members members' : List Member} (isObject : IsObject members core)
    (isObject' : IsObject members' core) : members = members' := by
  obtain ⟨arranged, framed, inner⟩ := isObject
  generalize shown : '{' :: _ = core at isObject'
  obtain ⟨arranged', framed', inner'⟩ := isObject'
  have fit : ∀ member ∈ members, member.IsFramed ∧ IsValue member.value :=
    fun member listed => ⟨framed member listed, inner member listed⟩
  have fit' : ∀ member ∈ members', member.IsFramed ∧ IsValue member.value :=
    fun member listed => ⟨framed' member listed, inner' member listed⟩
  exact Arranged.unique .object (fun _ => ⟨'"', _, rfl, by decide, by decide⟩)
    (fun one two ends ends' same => one.1.unique two.1 one.2 two.2 ends ends' same) arranged fit
    arranged' fit' (List.cons.inj shown).2

/-- The bracket tells an array from an object. -/
theorem IsArray.not_isObject {items : List (List Char)} {members : List Member}
    (isArray : IsArray items core) : ¬ IsObject members core := by
  obtain ⟨-, -⟩ := isArray
  rintro ⟨⟩

/-- A string denotes one text. -/
theorem Denotes.functional {body chars chars' : List Char} (one : Denotes body chars)
    (two : Denotes body chars') : chars = chars' := by
  have read := readBody_append one [] []
  rw [readBody_append two] at read
  simpa using (Except.ok.inj read).symm

/-- A member has one name. -/
theorem Member.Named.unique {member : Member} {name name' : String} (named : member.Named name)
    (named' : member.Named name') : name = name' :=
  String.toList_inj.mp (Denotes.functional named named')

theorem Member.Named.not_isOther {member : Member} {name : String} (named : member.Named name) :
    ¬ member.IsOther name := by
  rintro ⟨key, named', different⟩
  exact different (named'.unique named)

/-- Between blanks a value is all there is of a text. -/
theorem IsBetweenGaps.unique {core' text : List Char} (isValue : IsValue core)
    (isValue' : IsValue core') (between : IsBetweenGaps core text)
    (between' : IsBetweenGaps core' text) : core = core' := by
  obtain ⟨before, after, blank, blankAfter, rfl⟩ := between
  obtain ⟨before', after', blank', blankAfter', same⟩ := between'
  have shown := congrArg skipBlanks same
  rw [skipBlanks_value isValue blank, skipBlanks_value isValue' blank'] at shown
  exact (isValue.unique isValue' (endsNumber_of_isGap blankAfter) (endsNumber_of_isGap blankAfter')
    shown).1

end StudyDesk.Json
