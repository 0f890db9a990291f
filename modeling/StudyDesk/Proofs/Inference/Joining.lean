/-
Module: StudyDesk.Proofs.Inference.Joining
Purpose: The address below a base: the path of completions stands behind the path of the base without
  the slashes at its end, and everything else is the base's.
Main exports:
  Url.Address.scheme, withoutTrailingSlashes_append_slashes, normalizePath_joined, Endpoint.Joins,
  Endpoint.BaseLaw, Endpoint.baseLaw
-/
import StudyDesk.Inference.Endpoint
import StudyDesk.Proofs.Url.Slashes

namespace StudyDesk

/-! ### Schemes -/

namespace Url

/-- The scheme of an address. -/
def Address.scheme : Address → String
  | .web url => String.ofList (schemeName url.secure)
  | .foreign scheme => scheme

/-- The schemes of the web. -/
def webSchemes : List String := ["http", "https"]

theorem scheme_web_mem (url : Url) : (Address.web url).scheme ∈ webSchemes := by
  have named : ∀ secure, String.ofList (schemeName secure) ∈ webSchemes := by decide
  exact named url.secure

/-- An address of another scheme is none of the web. -/
theorem not_mem_webSchemes_of_parse {naming : Naming} {cs : List Char} {scheme : String}
    (read : parse naming cs = .ok (.foreign scheme)) : scheme ∉ webSchemes := by
  unfold parse at read
  split at read
  · cases read
  · split_ifs at read with plain secure
    · obtain ⟨_, _, web⟩ := map_eq_ok_iff.mp read
      cases web
    · obtain ⟨_, _, web⟩ := map_eq_ok_iff.mp read
      cases web
    · obtain ⟨-, -, same⟩ := map_eq_ok_iff.mp read
      cases same
      intro member
      rcases List.mem_pair.mp member with web | web
      · exact plain (String.ofList_injective web)
      · exact secure (String.ofList_injective web)

end Url

namespace Endpoint

open Url (slashes IsSegment joinSegments)

variable {naming : Naming} {path : List Char} {segments : List (List Char)}

/-! ### Paths without the slashes at their end -/

theorem withoutTrailingSlashes_append_slashes (path : List Char) (count : Nat) :
    withoutTrailingSlashes (path ++ slashes count) = withoutTrailingSlashes path := by
  rw [withoutTrailingSlashes, slashes, List.reverse_append, List.reverse_replicate,
    List.dropWhile_append_of_pos fun c slash => by simp [List.eq_of_mem_replicate slash]]
  rfl

/-- A path is what it is without the slashes at its end, and those slashes. -/
theorem exists_slashes (path : List Char) :
    ∃ count, path = withoutTrailingSlashes path ++ slashes count := by
  refine ⟨(path.rtakeWhile (· = '/')).length, ?_⟩
  have atEnd : path.rtakeWhile (· = '/') = slashes (path.rtakeWhile (· = '/')).length :=
    List.eq_replicate_length.mpr fun c member => by simpa using List.mem_rtakeWhile_imp member
  rw [← atEnd]
  exact List.rdropWhile_append_rtakeWhile.symm

theorem getLast?_withoutTrailingSlashes (path : List Char) :
    (withoutTrailingSlashes path).getLast? ≠ some '/' := by
  intro last
  have nonempty : withoutTrailingSlashes path ≠ [] := by
    intro nothing
    rw [nothing] at last
    cases last
  rw [List.getLast?_eq_some_getLast nonempty] at last
  exact List.rdropWhile_last_not _ path nonempty (decide_eq_true (Option.some.inj last))

theorem withoutTrailingSlashes_eq_self (ends : path.getLast? ≠ some '/') :
    withoutTrailingSlashes path = path := by
  refine List.rdropWhile_eq_self_iff.mpr fun nonempty slash => ends ?_
  rw [List.getLast?_eq_some_getLast nonempty, of_decide_eq_true slash]

/-- Without the slashes at its end, a path in normal form has segments in normal form. -/
theorem exists_segments_withoutTrailingSlashes (normal : ∀ segment ∈ segments, IsSegment segment) :
    ∃ kept, (∀ segment ∈ kept, IsSegment segment) ∧
      withoutTrailingSlashes (joinSegments segments) = joinSegments kept := by
  induction segments using List.reverseRecOn with
  | nil => exact ⟨[], nofun, rfl⟩
  | append_singleton before last ih =>
      obtain ⟨before_normal, last_normal⟩ := List.forall_mem_append.mp normal
      have undivided := (last_normal last List.mem_cons_self).undivided
      rw [Url.joinSegments_append]
      cases shown : last.getLast? with
      | none =>
          obtain rfl := List.getLast?_eq_none_iff.mp shown
          obtain ⟨kept, kept_normal, same⟩ := ih before_normal
          exact ⟨kept, kept_normal, (withoutTrailingSlashes_append_slashes _ 1).trans same⟩
      | some c =>
          refine ⟨before ++ [last], normal, ?_⟩
          rw [Url.joinSegments_append]
          refine withoutTrailingSlashes_eq_self ?_
          have member := List.mem_of_getLast? shown
          simpa [joinSegments, List.getLast?_append, List.getLast?_cons, shown]
            using (undivided c member).1

/-- The path of completions has two segments of its own. -/
def completionsSegments : List (List Char) := ["chat".toList, "completions".toList]

theorem isSegment_of_mem_completions : ∀ segment ∈ completionsSegments, IsSegment segment := by
  have kept : ∀ segment ∈ completionsSegments,
      segment.all (fun c => c != '/' && c != '\\' && !Percent.inPath c) = true ∧
        Url.isSingleDot segment = false ∧ Url.isDoubleDot segment = false := by
    decide +kernel
  intro segment member
  obtain ⟨kept, single, double⟩ := kept segment member
  simp only [List.all_eq_true, Bool.and_eq_true, bne_iff_ne, Bool.not_eq_true'] at kept
  exact ⟨fun c listed => (kept c listed).1, fun c listed => (kept c listed).2, single, double⟩

theorem joinSegments_completionsSegments : joinSegments completionsSegments = completionsPath := by
  decide

/-- A joined path is in normal form already. -/
theorem normalizePath_joined (cs : List Char) :
    Url.normalizePath (withoutTrailingSlashes (Url.normalizePath cs) ++ completionsPath) =
      withoutTrailingSlashes (Url.normalizePath cs) ++ completionsPath := by
  obtain ⟨segments, -, normal, written⟩ := Url.exists_segments cs
  obtain ⟨kept, kept_normal, same⟩ := exists_segments_withoutTrailingSlashes normal
  rw [written, same, ← joinSegments_completionsSegments, ← Url.joinSegments_append]
  refine Url.normalizePath_joinSegments ?_ ?_
  · exact List.append_ne_nil_of_right_ne_nil kept (List.cons_ne_nil _ _)
  · exact List.forall_mem_append.mpr ⟨kept_normal, isSegment_of_mem_completions⟩

/-! ### Joining -/

/-- An endpoint stands below a base: its path is the base's up to the slashes at the end and goes on
with the path of completions, and nothing else differs. -/
structure Joins (base endpoint : Url) : Prop where
  secure : endpoint.secure = base.secure
  userName : endpoint.userName = base.userName
  password : endpoint.password = base.password
  host : endpoint.host = base.host
  port : endpoint.port = base.port
  query : endpoint.query = base.query
  fragment : endpoint.fragment = base.fragment
  path : ∃ kept count, base.path = kept ++ slashes count ∧ kept.getLast? ≠ some '/' ∧
    endpoint.path = kept ++ completionsPath

/-- The path of an address that was read is in normal form. -/
theorem exists_normalizePath {cs : List Char} {base : Url}
    (read : Url.parse naming cs = .ok (.web base)) :
    ∃ written, base.path = Url.normalizePath written := by
  have web : ∀ secure rest, (Url.readWeb naming secure rest).map Url.Address.web = .ok (.web base) →
      ∃ written, base.path = Url.normalizePath written := by
    intro secure rest done
    obtain ⟨url, done, same⟩ := map_eq_ok_iff.mp done
    cases same
    unfold Url.readWeb at done
    obtain ⟨⟨user, host, port, behind⟩, -, done⟩ := bind_eq_ok_iff.mp done
    cases done
    exact ⟨_, rfl⟩
  unfold Url.parse at read
  split at read
  · cases read
  · split_ifs at read
    · exact web false _ read
    · exact web true _ read
    · obtain ⟨_, _, foreign⟩ := map_eq_ok_iff.mp read
      cases foreign

/-- Bringing the joined path into normal form leaves it as it is. -/
theorem ofUrl_eq {cs : List Char} {base : Url} (read : Url.parse naming cs = .ok (.web base)) :
    ofUrl base = { base with path := withoutTrailingSlashes base.path ++ completionsPath } := by
  obtain ⟨written, normal⟩ := exists_normalizePath read
  rw [ofUrl, withPath, normal, normalizePath_joined]

theorem joins_ofUrl {cs : List Char} {base : Url}
    (read : Url.parse naming cs = .ok (.web base)) :
    Joins base (ofUrl base) := by
  obtain ⟨count, split⟩ := exists_slashes base.path
  rw [ofUrl_eq read]
  exact {
    secure := rfl
    userName := rfl
    password := rfl
    host := rfl
    port := rfl
    query := rfl
    fragment := rfl
    path := ⟨_, count, split, getLast?_withoutTrailingSlashes base.path, rfl⟩ }

theorem ofBase_eq_ok_iff {base : String} {endpoint : Url} :
    ofBase naming base = .ok endpoint ↔
      ∃ url, Url.parse naming base.toList = .ok (.web url) ∧ ofUrl url = endpoint := by
  unfold ofBase
  split
  case h_1 fault read => simp [read]
  case h_2 scheme read => simp [read]
  case h_3 url read => simp [read]

/-- A text is a base if it is an address of the web. -/
theorem accepted_iff (naming : Naming) (base : String) :
    (∃ endpoint, ofBase naming base = .ok endpoint) ↔
      ∃ address, Url.parse naming base.toList = .ok address ∧ address.scheme ∈ Url.webSchemes := by
  constructor
  · rintro ⟨endpoint, accepted⟩
    obtain ⟨url, read, -⟩ := ofBase_eq_ok_iff.mp accepted
    exact ⟨.web url, read, Url.scheme_web_mem url⟩
  · rintro ⟨address, read, web⟩
    cases address with
    | web url => exact ⟨ofUrl url, ofBase_eq_ok_iff.mpr ⟨url, read, rfl⟩⟩
    | foreign scheme => exact absurd web (Url.not_mem_webSchemes_of_parse read)

/-- Slashes behind a base change nothing. -/
theorem ofBase_append_slashes {base : String} {endpoint : Url}
    (unmarked : Url.IsUnmarked base.toList) (inside : Url.EndsInside base.toList)
    (accepted : ofBase naming base = .ok endpoint) (count : Nat) :
    ofBase naming (base ++ String.ofList (slashes count)) = .ok endpoint := by
  obtain ⟨url, read, rfl⟩ := ofBase_eq_ok_iff.mp accepted
  obtain ⟨front, first, second, path, further⟩ :=
    Url.parse_append_slashes unmarked inside read count
  refine ofBase_eq_ok_iff.mpr
    ⟨_, by rw [String.toList_append, String.toList_ofList]; exact further, ?_⟩
  rw [ofUrl, ofUrl, path, withPath, withPath]
  dsimp only
  rw [withoutTrailingSlashes_append_slashes, withoutTrailingSlashes_append_slashes]

/-- What holds of every text that is given as a base, however names are brought into ASCII. -/
structure BaseLaw (naming : Naming) (base : String) : Prop where
  /-- A text is a base exactly if it is an address whose scheme is one of the web. -/
  accepted : (∃ endpoint, ofBase naming base = .ok endpoint) ↔
    ∃ address, Url.parse naming base.toList = .ok address ∧ address.scheme ∈ Url.webSchemes
  /-- The endpoint stands below the address that the text spells. -/
  joins : ∀ endpoint, ofBase naming base = .ok endpoint →
    ∃ url, Url.parse naming base.toList = .ok (.web url) ∧ Joins url endpoint
  /-- Slashes behind a base without query and fragment, whose last character counts, change
  nothing. -/
  slashes : ∀ endpoint, ofBase naming base = .ok endpoint → '?' ∉ base.toList → '#' ∉ base.toList →
    (∀ last ∈ base.toList.getLast?, ' ' < last) → ∀ count,
      ofBase naming (base ++ String.ofList (List.replicate count '/')) = .ok endpoint
  /-- Every other text is a fault of the configuration, and says so. -/
  refused : (∀ endpoint, ofBase naming base ≠ .ok endpoint) →
    ∃ fault : ConfigFault, ofBase naming base = .error fault ∧
      ((∃ why, fault = .badAddress base why) ∨ ∃ scheme, fault = .badScheme scheme) ∧
      fault.message = "configuration error: " ++ fault.detail

/-- The law of bases holds of every text. -/
theorem baseLaw (naming : Naming) (base : String) : BaseLaw naming base where
  accepted := accepted_iff naming base
  joins := by
    intro endpoint accepted
    obtain ⟨url, read, rfl⟩ := ofBase_eq_ok_iff.mp accepted
    exact ⟨url, read, joins_ofUrl read⟩
  slashes := by
    intro endpoint accepted noQuery noFragment last count
    refine ofBase_append_slashes ?_ ?_ accepted count
    · intro c member
      exact ⟨fun query => noQuery (query ▸ member), fun fragment => noFragment (fragment ▸ member)⟩
    · intro c isLast
      have counts : 32 < c.toNat := last c isLast
      simpa [Url.isOuter] using counts
  refused := by
    intro refused
    cases read : Url.parse naming base.toList with
    | error why => exact ⟨_, by rw [ofBase, read], .inl ⟨why, rfl⟩, rfl⟩
    | ok address =>
        cases address with
        | web url => exact absurd (ofBase_eq_ok_iff.mpr ⟨url, read, rfl⟩) (refused _)
        | foreign scheme => exact ⟨_, by rw [ofBase, read], .inr ⟨scheme, rfl⟩, rfl⟩

/-- Where a name beyond ASCII has a form in it, the endpoint bears that form. -/
example :
    (ofBase (fun name => if name = Text.encode "münchen.example".toList then
        some "xn--mnchen-3ya.example".toList else none) "https://münchen.example/v1").toOption.map
      (fun endpoint => String.ofList endpoint.text) =
      some "https://xn--mnchen-3ya.example/v1/chat/completions" := by decide +kernel

end Endpoint

end StudyDesk
