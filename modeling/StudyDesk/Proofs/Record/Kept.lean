/-
Module: StudyDesk.Proofs.Record.Kept
Purpose: A shape that drops nothing is read off a text exactly when the value of the text has it.
Main exports:
  Json.ofTable, Shape.Keeps, keeps_anything, keeps_text, keeps_table, Shape.Keeps.readAll_iff
-/
import StudyDesk.Proofs.Record.Agreement

namespace StudyDesk

open Json Record

variable {α : Type} {depth : Nat} {isFirst : Bool} {cs rest : List Char}

/-- Entries under their names as a value. -/
def Json.ofTable (embed : α → Json) (entries : List (String × α)) : Json :=
  .object (entries.map fun entry => (entry.1, embed entry.2))

/-- The data of a shape can be written as a value of which nothing is lost: the text is read as the data
just where it is read as that value. -/
structure Shape.Keeps (shape : Shape) (embed : shape.Value → Json) : Prop where
  shown : ∀ {depth cs x rest}, shape.read depth cs = .ok (x, rest) →
    readValue depth cs = .ok (embed x, rest)
  back : ∀ x, shape.ofJson .whole (embed x) = .ok x

theorem keeps_anything : Shape.anything.Keeps id where
  shown := id
  back := fun _ => rfl

theorem keeps_text : Shape.text.Keeps .string where
  shown := by
    intro depth cs x rest read
    rw [Shape.read, readString] at read
    rw [← readValue_skipBlanks]
    split at read
    · cases read
    · rename_i inner shown
      rw [shown]
      exact readValue_of_readText depth read
    · cases read
  back := fun _ => rfl

/-- The entries that are gathered from a text are the members that are gathered from it. -/
theorem readPair_of_readEntry {read : List Char → Read α} {embed : α → Json}
    {value : List Char → Read Json}
    (shown : ∀ {cs x rest}, read cs = .ok (x, rest) → value cs = .ok (embed x, rest))
    {steps : Nat} {before final : List (String × α)}
    (taken : readMembers (readEntry read) steps isFirst before cs = .ok (final, rest)) :
    readMembers (readPair value) steps isFirst
        (before.map fun entry => (entry.1, embed entry.2)) cs =
      .ok (final.map fun entry => (entry.1, embed entry.2), rest) := by
  induction steps generalizing isFirst before cs with
  | zero => cases taken
  | succ steps ih =>
      rw [readMembers, bind_eq_ok_iff] at taken ⊢
      obtain ⟨⟨more, here⟩, next, taken⟩ := taken
      refine ⟨(more, here), next, ?_⟩
      cases more with
      | false =>
          obtain ⟨rfl, rfl⟩ := Prod.mk.inj (Except.ok.inj taken)
          rfl
      | true =>
          obtain ⟨⟨key, afterKey⟩, named, taken⟩ := bind_eq_ok_iff.mp taken
          obtain ⟨⟨now, later⟩, entry, others⟩ := bind_eq_ok_iff.mp taken
          obtain ⟨afterColon, colon, entry⟩ := bind_eq_ok_iff.mp entry
          obtain ⟨⟨x, afterValue⟩, inside, same⟩ := bind_eq_ok_iff.mp entry
          obtain ⟨rfl, rfl⟩ := Prod.mk.inj (Except.ok.inj same)
          have pair : readPair value key (before.map fun entry => (entry.1, embed entry.2)) afterKey =
              .ok (((key, x) :: before).map fun entry => (entry.1, embed entry.2), afterValue) :=
            bind_eq_ok_iff.mpr ⟨afterColon, colon,
              bind_eq_ok_iff.mpr ⟨(embed x, afterValue), shown inside, rfl⟩⟩
          exact bind_eq_ok_iff.mpr ⟨(key, afterKey), named,
            bind_eq_ok_iff.mpr ⟨(_, afterValue), pair, ih others⟩⟩

theorem keeps_table {shape : Shape} {embed : shape.Value → Json} (keeps : shape.Keeps embed) :
    (Shape.table shape).Keeps (ofTable embed) where
  shown := by
    intro depth cs x rest read
    rw [Shape.read] at read
    split at read
    · cases read
    · rename_i inner shown
      cases depth with
      | zero => cases read
      | succ depth =>
          rw [← readValue_skipBlanks, shown, readValue_brace]
          obtain ⟨⟨gathered, after⟩, taken, same⟩ := map_eq_ok_iff.mp read
          obtain ⟨rfl, rfl⟩ := Prod.mk.inj same
          refine map_eq_ok_iff.mpr ⟨_, readPair_of_readEntry keeps.shown taken, ?_⟩
          simp only [ofTable, List.map_reverse]
    · cases read
  back := by
    intro entries
    induction entries with
    | nil => rfl
    | cons entry entries ih =>
        refine mapM_cons_eq_ok_iff.mpr ⟨entry, ?_, entries, ih, rfl⟩
        rw [keeps.back]
        rfl

/-- What is read off a whole text is what its value shows. -/
theorem Shape.Keeps.readAll_iff {shape : Shape} {embed : shape.Value → Json}
    (keeps : shape.Keeps embed) {x : shape.Value} :
    shape.readAll cs = .ok x ↔ parse cs = .ok (embed x) := by
  refine ⟨fun read => ?_, fun parsed => Shape.readAll_of_parse parsed (keeps.back x)⟩
  obtain ⟨rest, read, ended⟩ := Shape.readAll_eq_ok_iff.mp read
  exact parse_eq_ok_iff.mpr ⟨rest, keeps.shown read, ended⟩

end StudyDesk
