import OrderHerald.Proofs.Url.Percent
import OrderHerald.Url.Segments

/-!
# Segments that are put into a path

A segment is put at the end of the path of a url of the web, and in general the path becomes one segment
longer: it ends with a segment that stands for the bytes of what was put there.

**What gets lost.**  Tabs and line ends are dropped.  One dot or two are no segment; and if they only turn up
when tabs and line ends have been dropped, an empty segment stands in their place, and two dots may take the
segment before them away.  The length of the path shows it: it grows by one with each segment at most, and if
it does so with every segment, none was lost.

* `Url.IsPlain` — a segment of which nothing gets lost.
* `Segments.body` — the segments of a path, where a single empty one counts for nothing.
* `Segments.pushed` — the segments with one more.

## Main statements

* `Segments.foldl_pushed` — plain segments are put at the end one after the other.
* `Segments.foldl_pushed_grows` — a path that grows by one with every segment lost none.
-/

namespace OrderHerald

namespace Url

variable {name segment : String} {port : Nat}

/-! ### Plain segments -/

/-- The characters of a segment that get into a path. -/
def kept (segment : String) : List Char :=
  segment.toList.filter fun c => !(c = '\t' || c = '\n' || c = '\r')

/-- **Nothing gets lost of the segment**: it is not one dot or two, and has no tabs and no line ends. -/
def IsPlain (segment : String) : Prop :=
  segment ≠ "." ∧ segment ≠ ".." ∧ ∀ c ∈ segment.toList, c ≠ '\t' ∧ c ≠ '\n' ∧ c ≠ '\r'

-- The list of characters is gone through, and not all the characters that there are.
instance : DecidablePred IsPlain := fun segment =>
  haveI := List.decidableBAll (fun c => c ≠ '\t' ∧ c ≠ '\n' ∧ c ≠ '\r') segment.toList
  inferInstanceAs (Decidable (_ ∧ _ ∧ _))

theorem isPlain_iff :
    IsPlain segment ↔ segment ≠ "." ∧ segment ≠ ".." ∧ kept segment = segment.toList := by
  rw [kept, List.filter_eq_self, IsPlain]
  simp [and_assoc]

/-- A plain segment does not turn out to be dots. -/
theorem IsPlain.kept_ne (plain : IsPlain segment) : ¬ (kept segment = ['.'] ∨ kept segment = ['.', '.']) := by
  obtain ⟨dot, dots, same⟩ := isPlain_iff.mp plain
  rw [same]
  rintro (eq | eq)
  · exact dot (String.toList_inj.mp eq)
  · exact dots (String.toList_inj.mp eq)

/-- The segment as it is written into the path of a url of the web, unless it is dots. -/
theorem encodeSegment_web :
    encodeSegment (.web name port) segment
      = String.ofList (Percent.encode Percent.specialPathSegment (kept segment)) := rfl

theorem decode_encodeSegment :
    Percent.decode (encodeSegment (.web name port) segment).toList
      = (kept segment).flatMap String.utf8EncodeChar := by
  rw [encodeSegment_web, String.toList_ofList, Percent.decode_encode (by decide)]

/-- A segment that looks like other characters is made of them. -/
theorem kept_of_decode {text : List Char}
    (h : Percent.decode (encodeSegment (.web name port) segment).toList
      = text.flatMap String.utf8EncodeChar) : kept segment = text := by
  rw [decode_encodeSegment] at h
  exact Utf8.flatMap_encodeChar_inj h

/-- A segment is written in one of several spellings of a text exactly if this text is what gets in of it,
because each of them stands for the text. -/
theorem contains_encodeSegment {spellings : List String} {text : List Char}
    (spelled : ∀ spelling ∈ spellings,
      Percent.decode spelling.toList = text.flatMap String.utf8EncodeChar)
    (usual : String.ofList (Percent.encode Percent.specialPathSegment text) ∈ spellings) :
    spellings.contains (encodeSegment (.web name port) segment) = true ↔ kept segment = text := by
  rw [List.contains_iff_mem]
  constructor
  · intro mem
    exact kept_of_decode (spelled _ mem)
  · rintro rfl
    exact usual

/-- One dot in a path is a dot that was put there. -/
theorem isSingleDot_encodeSegment :
    Segments.isSingleDot (encodeSegment (.web name port) segment) = true ↔ kept segment = ['.'] :=
  contains_encodeSegment (by decide) (by decide)

/-- Two dots in a path are dots that were put there. -/
theorem isDoubleDot_encodeSegment :
    Segments.isDoubleDot (encodeSegment (.web name port) segment) = true ↔ kept segment = ['.', '.'] :=
  contains_encodeSegment (by decide) (by decide)

/-- What stands in the path for a segment that is put there: an empty segment for dots. -/
def written (scheme : Scheme) (segment : String) : String :=
  if kept segment = ['.'] ∨ kept segment = ['.', '.'] then "" else encodeSegment scheme segment

theorem written_of_isPlain (plain : IsPlain segment) (scheme : Scheme) :
    written scheme segment = encodeSegment scheme segment :=
  if_neg plain.kept_ne

/-- **What stands in the path stands for the segment** exactly if nothing got lost of it. -/
theorem decode_written_eq_iff (dot : segment ≠ ".") (dots : segment ≠ "..") :
    Percent.decode (written (.web name port) segment).toList = segment.toUTF8.toList ↔ IsPlain segment := by
  rw [Utf8.toList_toUTF8]
  constructor
  · intro same
    rw [isPlain_iff]
    refine ⟨dot, dots, ?_⟩
    unfold written at same
    split at same
    · rename_i isDots
      have nothing : segment.toList = [] := Utf8.flatMap_encodeChar_inj same.symm
      rw [kept, nothing] at isDots
      exact absurd isDots (by decide)
    · exact kept_of_decode same
  · intro plain
    rw [written_of_isPlain plain, decode_encodeSegment, (isPlain_iff.mp plain).2.2]

end Url

/-! ### One more segment -/

namespace Segments

open Url (IsPlain kept written)

variable {name segment : String} {port : Nat} {before segments : List String}

/-- The segments of a path, where a single empty one counts for nothing. -/
def body (segments : List String) : List String :=
  if segments = [""] then [] else segments

/-- **The segments with one more**, in a scheme. -/
def pushed (scheme : Scheme) (segments : List String) (segment : String) : List String :=
  if segment = "." ∨ segment = ".." then segments
  else append scheme true (body segments) (Url.encodeSegment scheme segment)

theorem body_of_ne (h : segments ≠ [""]) : body segments = segments := if_neg h

theorem length_body_le (segments : List String) : (body segments).length ≤ segments.length := by
  unfold body
  split <;> simp

theorem append_encodeSegment (name : String) (port : Nat) (before : List String) (segment : String) :
    append (.web name port) true before (Url.encodeSegment (.web name port) segment)
      = if kept segment = ['.', '.'] then shorten before ++ [""]
        else if kept segment = ['.'] then before ++ [""]
        else before ++ [Url.encodeSegment (.web name port) segment] := by
  simp [append, Url.isDoubleDot_encodeSegment, Url.isSingleDot_encodeSegment, normalizeDrive]

/-- **What putting a segment comes to** that is not one dot or two: it is written at the end, or it takes the
last segment's place. -/
theorem append_cases (name : String) (port : Nat) (before : List String) (segment : String) :
    append (.web name port) true before (Url.encodeSegment (.web name port) segment)
        = before ++ [written (.web name port) segment] ∨
      (before ≠ [] ∧ append (.web name port) true before (Url.encodeSegment (.web name port) segment)
        = before.dropLast ++ [""]) := by
  rw [append_encodeSegment, written]
  by_cases dots : kept segment = ['.', '.']
  · rw [if_pos dots, if_pos (.inr dots)]
    unfold shorten
    cases last : before.getLast? with
    | none =>
      rw [List.getLast?_eq_none_iff] at last
      exact .inl (by rw [last])
    | some final =>
      have some : before ≠ [] := by
        rintro rfl
        cases last
      simp only
      split
      · exact .inl rfl
      · exact .inr ⟨some, rfl⟩
  · rw [if_neg dots]
    by_cases dot : kept segment = ['.']
    · rw [if_pos dot, if_pos (.inl dot)]
      exact .inl rfl
    · rw [if_neg dot, if_neg (not_or.mpr ⟨dot, dots⟩)]
      exact .inl rfl

/-- A plain segment is written at the end. -/
theorem pushed_of_isPlain (plain : IsPlain segment) (name : String) (port : Nat)
    (segments : List String) :
    pushed (.web name port) segments segment
      = body segments ++ [Url.encodeSegment (.web name port) segment] := by
  obtain ⟨noDot, noDots⟩ := not_or.mp plain.kept_ne
  rw [pushed, if_neg (not_or.mpr ⟨plain.1, plain.2.1⟩), append_encodeSegment, if_neg noDots, if_neg noDot]

/-- **Plain segments are put at the end one after the other**, where there are segments already. -/
theorem foldl_pushed {parts : List String} (plain : ∀ part ∈ parts, IsPlain part) (name : String)
    (port : Nat) (some : segments ≠ []) (proper : segments ≠ [""]) :
    parts.foldl (pushed (.web name port)) segments
      = segments ++ parts.map (Url.encodeSegment (.web name port)) := by
  induction parts generalizing segments with
  | nil => exact (List.append_nil segments).symm
  | cons part parts ih =>
    obtain ⟨first, rest⟩ := List.forall_mem_cons.mp plain
    rw [List.foldl_cons, pushed_of_isPlain first, body_of_ne proper, ih rest (by simp)]
    · simp
    · cases segments with
      | nil => exact absurd rfl some
      | cons segment segments => simp

/-- A path grows by one segment at most, and if it does, what stands at its end was put there. -/
theorem pushed_grows (name : String) (port : Nat) (segments : List String) (segment : String) :
    (body (pushed (.web name port) segments segment)).length ≤ (body segments).length + 1 ∧
      ((body (pushed (.web name port) segments segment)).length = (body segments).length + 1 →
        body (pushed (.web name port) segments segment)
            = body segments ++ [written (.web name port) segment] ∧ segment ≠ "." ∧ segment ≠ "..") := by
  unfold pushed
  by_cases dots : segment = "." ∨ segment = ".."
  · rw [if_pos dots]
    exact ⟨by omega, by omega⟩
  · rw [if_neg dots]
    have apart := not_or.mp dots
    rcases append_cases name port (body segments) segment with atEnd | ⟨some, instead⟩
    · rw [atEnd]
      have short := length_body_le (body segments ++ [written (.web name port) segment])
      rw [List.length_append, List.length_singleton] at short
      refine ⟨short, fun grown => ⟨?_, apart⟩⟩
      by_cases single : body segments ++ [written (.web name port) segment] = [""]
      · rw [single] at grown
        exact absurd grown (by simp [body])
      · exact body_of_ne single
    · rw [instead]
      have short := length_body_le ((body segments).dropLast ++ [""])
      have nonempty := List.length_pos_iff.mpr some
      rw [List.length_append, List.length_dropLast, List.length_singleton] at short
      exact ⟨by omega, fun grown => by omega⟩

/-- **A path that grows by one with every segment lost none.** -/
theorem foldl_pushed_grows (name : String) (port : Nat) (parts segments : List String) :
    let path := parts.foldl (pushed (.web name port)) segments
    (body path).length ≤ (body segments).length + parts.length ∧
      ((body path).length = (body segments).length + parts.length →
        body path = body segments ++ parts.map (written (.web name port)) ∧
          ∀ part ∈ parts, part ≠ "." ∧ part ≠ "..") := by
  induction parts generalizing segments with
  | nil => exact ⟨Nat.le_refl _, fun _ => ⟨(List.append_nil _).symm, nofun⟩⟩
  | cons part parts ih =>
    intro path
    obtain ⟨once, grows⟩ := pushed_grows name port segments part
    obtain ⟨often, rest⟩ := ih (pushed (.web name port) segments part)
    have same : path = parts.foldl (pushed (.web name port)) (pushed (.web name port) segments part) := rfl
    rw [← same] at often rest
    rw [List.length_cons]
    refine ⟨by omega, fun grown => ?_⟩
    obtain ⟨first, apart⟩ := grows (by omega)
    obtain ⟨others, all⟩ := rest (by omega)
    refine ⟨?_, List.forall_mem_cons.mpr ⟨apart, all⟩⟩
    rw [others, first, List.append_assoc]
    rfl

end Segments

/-! ### Putting segments into the path of a url -/

namespace Url

variable {url : Url} {name : String} {port : Nat} {segments : List String}

theorem push_eq (web : url.scheme = .web name port) (path : url.path = .segments segments)
    (segment : String) :
    url.push segment
      = { url with path := .segments (Segments.pushed (.web name port) segments segment) } := by
  have still : url = { url with path := .segments segments } := by rw [← path]
  simp only [push, path, Segments.pushed, web]
  split
  · rw [← web]
    exact still
  · rfl

/-- Segments are put into the path and nowhere else. -/
theorem foldl_push (web : url.scheme = .web name port) (path : url.path = .segments segments)
    (parts : List String) :
    parts.foldl push url
      = { url with path := .segments (parts.foldl (Segments.pushed (.web name port)) segments) } := by
  induction parts generalizing url segments with
  | nil =>
    rw [List.foldl_nil, List.foldl_nil, ← path]
  | cons part parts ih =>
    rw [List.foldl_cons, List.foldl_cons, push_eq web path]
    exact ih web rfl

end Url

end OrderHerald
