/-
Module: StudyDesk.Proofs.Url.Slashes
Purpose: Slashes at the end of an address belong to its path: nothing else of the address is read
  otherwise when more of them are written.
Main exports:
  readAuthority_append_slashes, readAuthority_suffix, parse_append_slashes
-/
import Mathlib.Data.List.DropRight
import StudyDesk.Proofs.Json.Inversion
import StudyDesk.Proofs.Url.Paths

namespace StudyDesk.Url

variable {α : Type} {host : List Char → Except UrlFault α} {own : Nat} {cs : List Char}

/-! ### Text that a slash stops -/

section Stopped

variable {goesOn : Char → Bool}

theorem takeWhile_append_slashes (stopped : goesOn '/' = false) (cs : List Char) (count : Nat) :
    (cs ++ slashes count).takeWhile goesOn = cs.takeWhile goesOn := by
  induction cs with
  | nil => cases count <;> simp [slashes, List.replicate_succ, stopped]
  | cons c cs ih =>
      rw [List.cons_append, List.takeWhile_cons, List.takeWhile_cons, ih]

theorem dropWhile_append_slashes (stopped : goesOn '/' = false) (cs : List Char) (count : Nat) :
    (cs ++ slashes count).dropWhile goesOn = cs.dropWhile goesOn ++ slashes count := by
  induction cs with
  | nil => cases count <;> simp [slashes, List.replicate_succ, stopped]
  | cons c cs ih =>
      rw [List.cons_append, List.dropWhile_cons, List.dropWhile_cons, ih]
      split_ifs <;> rfl

end Stopped

/-! ### The authority -/

theorem splitUserInfo_append_slashes (rules : Rules) (cs : List Char) (count : Nat) :
    splitUserInfo rules (cs ++ slashes count) =
      ((splitUserInfo rules cs).1, (splitUserInfo rules cs).2 ++ slashes count) := by
  unfold splitUserInfo
  rw [takeWhile_append_slashes rfl, dropWhile_append_slashes rfl]
  dsimp only
  split_ifs
  · rw [List.append_assoc]
  · rfl

theorem splitUserInfo_suffix (rules : Rules) (cs : List Char) :
    (splitUserInfo rules cs).2 <:+ cs := by
  unfold splitUserInfo
  dsimp only
  split_ifs
  · obtain ⟨info, authority⟩ : (cs.takeWhile (!endsAuthority rules ·)).rtakeWhile (· != '@') <:+
        cs.takeWhile (!endsAuthority rules ·) := List.rtakeWhile_suffix _ _
    refine ⟨info, ?_⟩
    rw [← List.append_assoc]
    exact (congrArg (· ++ _) authority).trans List.takeWhile_append_dropWhile
  · exact List.suffix_refl cs

theorem splitHost_append_slashes (rules : Rules) (bracketed : Bool) (cs : List Char)
    (count : Nat) :
    splitHost rules bracketed (cs ++ slashes count) =
      ((splitHost rules bracketed cs).1, (splitHost rules bracketed cs).2 ++ slashes count) := by
  induction cs generalizing bracketed with
  | nil =>
      cases count with
      | zero => rfl
      | succ count => rfl
  | cons c cs ih =>
      rw [List.cons_append, splitHost, splitHost, ih]
      split_ifs <;> rfl

theorem splitHost_suffix (rules : Rules) (bracketed : Bool) (cs : List Char) :
    (splitHost rules bracketed cs).2 <:+ cs := by
  induction cs generalizing bracketed with
  | nil => exact List.suffix_refl []
  | cons c cs ih =>
      rw [splitHost]
      split_ifs
      · exact List.suffix_refl (c :: cs)
      · exact (ih _).trans (List.suffix_cons c cs)

theorem readPort_append_slashes (cs : List Char) (count : Nat) :
    readPort (cs ++ slashes count) =
      (readPort cs).map fun read => (read.1, read.2 ++ slashes count) := by
  unfold readPort
  rw [takeWhile_append_slashes rfl, dropWhile_append_slashes rfl]
  dsimp only
  cases behind : cs.dropWhile Char.isDigit with
  | nil =>
      cases count with
      | zero =>
          rw [slashes, List.replicate_zero, List.append_nil]
          dsimp only
          split_ifs <;> rfl
      | succ count =>
          rw [slashes, List.replicate_succ, List.nil_append]
          simp only [decide_true, Bool.true_or, if_true]
          split_ifs <;> rfl
  | cons c rest =>
      rw [List.cons_append]
      dsimp only
      split_ifs <;> rfl

theorem readPort_suffix {read : Option Nat × List Char} (done : readPort cs = .ok read) :
    read.2 <:+ cs := by
  have behind : cs.dropWhile Char.isDigit <:+ cs := List.dropWhile_suffix _
  unfold readPort at done
  dsimp only at done
  split at done
  · split_ifs at done <;> cases done <;> exact List.nil_suffix
  · split_ifs at done <;> cases done <;> exact behind

/-- The port of a scheme's address, if one is written, and what follows it. -/
def readOwnPort (rules : Rules) (cs : List Char) : Except UrlFault (Option Nat × List Char) :=
  match cs with
  | ':' :: afterColon => (readPort afterColon).map fun read => (keptPort rules read.1, read.2)
  | _ => .ok (none, cs)

theorem readOwnPort_append_slashes (rules : Rules) (cs : List Char) (count : Nat) :
    readOwnPort rules (cs ++ slashes count) =
      (readOwnPort rules cs).map fun read => (read.1, read.2 ++ slashes count) := by
  cases cs with
  | nil =>
      cases count with
      | zero => rfl
      | succ count => rfl
  | cons c cs =>
      by_cases colon : c = ':'
      · subst colon
        rw [List.cons_append, readOwnPort, readOwnPort, readPort_append_slashes]
        cases readPort cs <;> rfl
      · simp [readOwnPort, colon, Except.map]

theorem readOwnPort_suffix {rules : Rules} {read : Option Nat × List Char}
    (done : readOwnPort rules cs = .ok read) : read.2 <:+ cs := by
  unfold readOwnPort at done
  split at done
  · obtain ⟨port, digits, rfl⟩ := map_eq_ok_iff.mp done
    exact (readPort_suffix digits).trans (List.suffix_cons _ _)
  · cases done
    exact List.suffix_refl cs

/-- The authority of a web address: a host is required, and the port may follow it. -/
theorem readAuthority_special (host : List Char → Except UrlFault α) (own : Nat)
    (cs : List Char) :
    readAuthority host (.special own) cs =
      let user := splitUserInfo (.special own) cs
      let named := splitHost (.special own) false user.2
      if named.1.isEmpty then .error .emptyHost
      else do
        let h ← host named.1
        let port ← readOwnPort (.special own) named.2
        return (readUserInfo (user.1.getD []), h, port) := by
  unfold readAuthority
  dsimp only
  rcases splitUserInfo (.special own) cs with ⟨info, after⟩
  dsimp only
  cases after with
  | nil => simp [splitHost, Rules.isSpecial, throw, throwThe, MonadExceptOf.throw]; rfl
  | cons c rest =>
      rcases named : splitHost (.special own) false (c :: rest) with ⟨hostText, behind⟩
      cases hostText with
      | nil =>
          simp only [Rules.isSpecial, List.isEmpty_nil, Bool.and_self, if_true]
          split_ifs <;> rfl
      | cons first others =>
          have goesOn : endsAuthority (.special own) c = false := by
            refine Bool.eq_false_iff.mpr fun ends => ?_
            rw [splitHost, ends, Bool.or_true, if_pos rfl] at named
            cases named
          simp only [goesOn, Bool.and_false, List.isEmpty_cons, Bool.false_eq_true, if_false]
          cases host (first :: others) with
          | error fault => rfl
          | ok h =>
              cases behind with
              | nil => rfl
              | cons d behind =>
                  by_cases colon : d = ':'
                  · subst colon
                    cases port : readPort behind <;> simp [readOwnPort, port] <;> rfl
                  · simp [readOwnPort, colon, bind, Except.bind]

/-- More slashes behind an address are read as more of its path. -/
theorem readAuthority_append_slashes (host : List Char → Except UrlFault α) (own : Nat)
    (cs : List Char) (count : Nat) :
    readAuthority host (.special own) (cs ++ slashes count) =
      (readAuthority host (.special own) cs).map fun read =>
        (read.1, read.2.1, read.2.2.1, read.2.2.2 ++ slashes count) := by
  rw [readAuthority_special, readAuthority_special, splitUserInfo_append_slashes]
  dsimp only
  rw [splitHost_append_slashes]
  dsimp only
  rw [readOwnPort_append_slashes]
  split_ifs
  · rfl
  · cases host (splitHost (.special own) false (splitUserInfo (.special own) cs).2).1 with
    | error fault => rfl
    | ok h =>
        cases readOwnPort (.special own)
          (splitHost (.special own) false (splitUserInfo (.special own) cs).2).2 <;> rfl

/-- What is read behind the authority of an address stands at its end. -/
theorem readAuthority_suffix {read : (List Char × List Char) × α × Option Nat × List Char}
    (done : readAuthority host (.special own) cs = .ok read) : read.2.2.2 <:+ cs := by
  rw [readAuthority_special] at done
  dsimp only at done
  split_ifs at done
  obtain ⟨h, -, done⟩ := bind_eq_ok_iff.mp done
  obtain ⟨port, ownPort, done⟩ := bind_eq_ok_iff.mp done
  cases done
  exact (readOwnPort_suffix ownPort).trans
    ((splitHost_suffix _ _ _).trans (splitUserInfo_suffix _ _))

/-! ### Web addresses -/

/-- Text in which neither a query nor a fragment begins. -/
def IsUnmarked (cs : List Char) : Prop := ∀ c ∈ cs, c ≠ '?' ∧ c ≠ '#'

theorem takeWhile_of_isUnmarked (unmarked : IsUnmarked cs) :
    cs.takeWhile (fun c => !(c = '?' || c = '#')) = cs := by
  refine List.takeWhile_eq_self_iff.mpr fun c member => ?_
  simpa using unmarked c member

theorem dropWhile_of_isUnmarked (unmarked : IsUnmarked cs) :
    cs.dropWhile (fun c => !(c = '?' || c = '#')) = [] := by
  refine List.dropWhile_eq_nil_iff.mpr fun c member => ?_
  simpa using unmarked c member

theorem IsUnmarked.append_slashes (unmarked : IsUnmarked cs) (count : Nat) :
    IsUnmarked (cs ++ slashes count) := by
  intro c member
  rcases List.mem_append.mp member with old | slash
  · exact unmarked c old
  · rw [List.eq_of_mem_replicate slash]
    decide

theorem readWeb_append_slashes {naming : Naming} {secure : Bool} {base : Url} (unmarked : IsUnmarked cs)
    (done : readWeb naming secure cs = .ok base) (count : Nat) :
    ∃ front first second, base.path = front ++ slashes first ∧
      readWeb naming secure (cs ++ slashes count) =
        .ok { base with path := front ++ slashes second } := by
  unfold readWeb at done
  obtain ⟨⟨user, host, port, behind⟩, authority, done⟩ := bind_eq_ok_iff.mp done
  have body : (cs ++ slashes count).dropWhile (fun c => c = '/' || c = '\\') =
      cs.dropWhile (fun c => c = '/' || c = '\\') ++ slashes count := by
    -- An address of slashes alone has no host, and no more slashes give it one.
    have nonempty : (cs.dropWhile fun c => c = '/' || c = '\\') ≠ [] := by
      intro nothing
      rw [nothing] at authority
      cases authority
    rw [List.dropWhile_append, if_neg (mt List.isEmpty_iff.mp nonempty)]
  have atEnd : behind <:+ cs := (readAuthority_suffix authority).trans (List.dropWhile_suffix _)
  have unmarked : IsUnmarked behind := fun c member => unmarked c (atEnd.subset member)
  obtain ⟨front, first, second, plain, further⟩ := exists_front_of_slashes behind count
  have further_unmarked := unmarked.append_slashes count
  simp only [takeWhile_of_isUnmarked unmarked, dropWhile_of_isUnmarked unmarked, plain] at done
  cases done
  refine ⟨front, first, second, rfl, ?_⟩
  have more := readAuthority_append_slashes (Host.ofText naming) (defaultPort secure)
    (cs.dropWhile fun c => c = '/' || c = '\\') count
  rw [authority, ← body] at more
  simp only [readWeb, more, Except.map, bind, Except.bind,
    takeWhile_of_isUnmarked further_unmarked, dropWhile_of_isUnmarked further_unmarked, further]
  rfl

/-! ### Whole addresses -/

/-- Text at the end of which nothing is dropped. -/
def EndsInside (cs : List Char) : Prop := ∀ c ∈ cs.getLast?, isOuter c = false

theorem reverse_dropWhile_reverse (inside : EndsInside cs) :
    (cs.reverse.dropWhile isOuter).reverse = cs := by
  refine List.rdropWhile_eq_self_iff.mpr fun nonempty => ?_
  rw [inside _ (List.getLast?_eq_some_getLast nonempty)]
  exact Bool.false_ne_true

theorem EndsInside.append_slashes (inside : EndsInside cs) (count : Nat) :
    EndsInside (cs ++ slashes count) := by
  cases count with
  | zero => rwa [slashes, List.replicate_zero, List.append_nil]
  | succ count =>
      intro c last
      rw [slashes, List.replicate_succ', ← List.append_assoc, List.getLast?_append] at last
      cases last
      rfl

theorem EndsInside.dropWhile (inside : EndsInside cs) (goesOn : Char → Bool) :
    EndsInside (cs.dropWhile goesOn) := by
  intro c last
  refine inside c ?_
  rw [← List.takeWhile_append_dropWhile (p := goesOn) (l := cs), List.getLast?_append,
    Option.mem_def.mp last]
  rfl

theorem significant_append_slashes (inside : EndsInside cs) (count : Nat) :
    significant (cs ++ slashes count) = significant cs ++ slashes count := by
  have kept : (slashes count).filter (!isDropped ·) = slashes count := by
    refine List.filter_eq_self.mpr fun c slash => ?_
    rw [List.eq_of_mem_replicate slash]
    rfl
  have begins := inside.dropWhile isOuter
  rw [significant, dropWhile_append_slashes rfl,
    reverse_dropWhile_reverse (begins.append_slashes count), List.filter_append, kept,
    significant, reverse_dropWhile_reverse begins]

theorem mem_of_mem_significant {c : Char} (member : c ∈ significant cs) : c ∈ cs := by
  have trimmed := List.mem_reverse.mp (List.mem_filter.mp member).1
  exact (List.dropWhile_suffix _).subset
    (List.mem_reverse.mp ((List.dropWhile_suffix _).subset trimmed))

theorem splitScheme?_append_slashes {scheme rest : List Char}
    (done : splitScheme? cs = some (scheme, rest)) (count : Nat) :
    splitScheme? (cs ++ slashes count) = some (scheme, rest ++ slashes count) ∧ rest <:+ cs := by
  cases cs with
  | nil => cases done
  | cons c cs =>
      have suffix : (c :: cs).dropWhile isSchemeChar <:+ c :: cs := List.dropWhile_suffix _
      unfold splitScheme? at done ⊢
      rw [List.cons_append]
      dsimp only at done ⊢
      split_ifs at done ⊢ with letter
      rw [← List.cons_append, takeWhile_append_slashes rfl, dropWhile_append_slashes rfl]
      split at done
      case h_1 behind colon =>
        cases done
        rw [colon] at suffix ⊢
        exact ⟨rfl, (List.suffix_cons _ _).trans suffix⟩
      case h_2 => cases done

/-- Slashes behind an address of the web only put slashes behind its path. -/
theorem parse_append_slashes {naming : Naming} {base : Url} (unmarked : IsUnmarked cs) (inside : EndsInside cs)
    (done : parse naming cs = .ok (.web base)) (count : Nat) :
    ∃ front first second, base.path = front ++ slashes first ∧
      parse naming (cs ++ slashes count) =
        .ok (.web { base with path := front ++ slashes second }) := by
  unfold parse at done ⊢
  rw [significant_append_slashes inside]
  cases parts : splitScheme? (significant cs) with
  | none =>
      rw [parts] at done
      cases done
  | some part =>
      obtain ⟨scheme, rest⟩ := part
      rw [parts] at done
      obtain ⟨further, suffix⟩ := splitScheme?_append_slashes parts count
      have unmarked : IsUnmarked rest := fun c member =>
        unmarked c (mem_of_mem_significant (suffix.subset member))
      have web : ∀ secure, (readWeb naming secure rest).map Address.web = .ok (.web base) →
          ∃ front first second, base.path = front ++ slashes first ∧
            (readWeb naming secure (rest ++ slashes count)).map Address.web =
              .ok (.web { base with path := front ++ slashes second }) := by
        intro secure done
        obtain ⟨url, read, same⟩ := map_eq_ok_iff.mp done
        cases same
        obtain ⟨front, first, second, path, more⟩ := readWeb_append_slashes unmarked read count
        exact ⟨front, first, second, path, by rw [more]; rfl⟩
      rw [further]
      dsimp only at done ⊢
      split_ifs at done ⊢
      · exact web false done
      · exact web true done
      · obtain ⟨-, -, foreign⟩ := map_eq_ok_iff.mp done
        cases foreign

end StudyDesk.Url
