import OrderHerald.Proofs.Store.Opening
import OrderHerald.Proofs.Url.Segments

/-!
# The url of an object

The url of an object is the one of the endpoint, its path continued by the bucket and the parts of the key.
An empty segment at the end of the endpoint's path gives way to them.

**Which objects have such a url.**  Exactly those of which nothing gets lost: neither the bucket nor a part of
the key is one dot or two, and none of them has a tab or a line end.  The endpoint matters too: where its path
is two slashes, it is the empty segment between them that gets lost.  If nothing gets lost, different objects
have different urls, whatever characters they are named with; otherwise the url may be that of another object,
or lie outside of the endpoint's path.

* `Url.Continues` — the path of a url is another one's, continued by parts.

## Main statements

* `Url.continues_iff` — when nothing gets lost.
* `Url.text_inj` — objects of which nothing gets lost can be told apart by their urls.
* `Store.source_continues_iff` — both, for every store of objects that passes the check.
-/

namespace OrderHerald

/-- The segments without an empty one at the end. -/
def withoutEmptyEnd (segments : List String) : List String :=
  if segments.getLast? = some "" then segments.dropLast else segments

namespace Url

variable {url base : Url} {name : String} {port : Nat} {segments : List String}

/-- **The path of the url is that of the other one, continued by the parts**: there is one segment for each
of them, and it stands for the bytes of the part. -/
def Continues (url base : Url) (parts : List String) : Prop :=
  ∃ front back, base.path = .segments front ∧ url.path = .segments (withoutEmptyEnd front ++ back) ∧
    back.map (fun segment => Percent.decode segment.toList) = parts.map fun part => part.toUTF8.toList

/-- The segments behind which objects are put. -/
def objectFront (segments : List String) : List String :=
  if segments = ["", ""] then [] else withoutEmptyEnd segments

/-- An empty segment at the end gives way, and so does one that is left alone then. -/
theorem body_popIfEmpty (path : base.path = .segments segments) :
    ∃ front, base.popIfEmpty = { base with path := .segments front } ∧
      Segments.body front = objectFront segments := by
  simp only [popIfEmpty, path]
  by_cases last : segments.getLast? = some ""
  · by_cases long : 2 ≤ segments.length
    · refine ⟨segments.dropLast, if_pos ⟨long, last⟩, ?_⟩
      by_cases two : segments = ["", ""]
      · rw [two]
        rfl
      · have proper : segments.dropLast ≠ [""] := by
          intro single
          obtain ⟨front, rfl⟩ := List.getLast?_eq_some_iff.mp last
          rw [List.dropLast_concat] at single
          exact two (by rw [single]; rfl)
        rw [Segments.body_of_ne proper, objectFront, if_neg two, withoutEmptyEnd, if_pos last]
    · obtain rfl : segments = [""] := by
        match segments, last, long with
        | [segment], last, _ =>
          obtain rfl : segment = "" := Option.some.inj last
          rfl
        | _ :: _ :: _, _, long => simp at long
      exact ⟨[""], by rw [if_neg (by decide), ← path], rfl⟩
  · refine ⟨segments, by rw [if_neg fun both => last both.2, ← path], ?_⟩
    have proper : segments ≠ [""] := fun single => last (by rw [single]; rfl)
    have two : segments ≠ ["", ""] := fun pair => last (by rw [pair]; rfl)
    rw [Segments.body_of_ne proper, objectFront, if_neg two, withoutEmptyEnd, if_neg last]

theorem encodeSegment_ne_empty {part : String} (plain : IsPlain part) (named : part ≠ "") :
    encodeSegment (.web name port) part ≠ "" := by
  intro empty
  have nothing : Percent.decode (encodeSegment (.web name port) part).toList
      = ([] : List Char).flatMap String.utf8EncodeChar := by
    rw [empty]
    rfl
  have kept := kept_of_decode nothing
  rw [(isPlain_iff.mp plain).2.2] at kept
  exact named (String.toList_inj.mp kept)

/-- Parts are put behind these segments, and nothing else of the url changes. -/
theorem foldl_push_popIfEmpty (web : base.scheme = .web name port) (path : base.path = .segments segments)
    (parts : List String) :
    ∃ front, Segments.body front = objectFront segments ∧
      parts.foldl push base.popIfEmpty
        = { base with path := .segments (parts.foldl (Segments.pushed (.web name port)) front) } := by
  obtain ⟨front, popped, body⟩ := body_popIfEmpty path
  have scheme : base.popIfEmpty.scheme = .web name port := by rw [popped, web]
  have front' : base.popIfEmpty.path = .segments front := by rw [popped]
  refine ⟨front, body, ?_⟩
  rw [foldl_push scheme front', popped]

/-- What plain parts are written as stands for their bytes. -/
theorem map_decode_encodeSegment {parts : List String} (plain : ∀ part ∈ parts, IsPlain part) :
    (parts.map (encodeSegment (.web name port))).map (fun segment => Percent.decode segment.toList)
      = parts.map fun part => part.toUTF8.toList := by
  rw [List.map_map]
  refine List.map_congr_left fun part mem => ?_
  have kept := isPlain_iff.mp (plain part mem)
  rw [Function.comp_apply, decode_encodeSegment, kept.2.2, Utf8.toList_toUTF8]

/-- **Plain parts continue the path one after the other.** -/
theorem foldl_push_of_isPlain {bucket : String} {parts : List String}
    (web : base.scheme = .web name port) (path : base.path = .segments segments) (named : bucket ≠ "")
    (plain : ∀ part ∈ bucket :: parts, IsPlain part) :
    (bucket :: parts).foldl push base.popIfEmpty
      = { base with
          path := .segments (objectFront segments
            ++ (bucket :: parts).map (encodeSegment (.web name port))) } := by
  obtain ⟨front, body, continued⟩ := foldl_push_popIfEmpty web path (bucket :: parts)
  obtain ⟨first, rest⟩ := List.forall_mem_cons.mp plain
  have proper : objectFront segments ++ [encodeSegment (.web name port) bucket] ≠ [""] := by
    intro single
    have last := congrArg List.getLast? single
    rw [List.getLast?_concat] at last
    exact encodeSegment_ne_empty first named (Option.some.inj last)
  have some : objectFront segments ++ [encodeSegment (.web name port) bucket] ≠ [] := by simp
  rw [continued, List.foldl_cons, Segments.pushed_of_isPlain first, body,
    Segments.foldl_pushed rest name port some proper, List.append_assoc]
  rfl

/-- A path that is continued is as long as it can be, so nothing got lost. -/
theorem isPlain_of_continues {bucket : String} {parts : List String} (web : base.scheme = .web name port)
    (path : base.path = .segments segments) (divided : parts ≠ [])
    (continues : ((bucket :: parts).foldl push base.popIfEmpty).Continues base (bucket :: parts)) :
    segments ≠ ["", ""] ∧ ∀ part ∈ bucket :: parts, IsPlain part := by
  obtain ⟨_, back, same, continued, told⟩ := continues
  obtain rfl := Path.segments.inj (path.symm.trans same)
  obtain ⟨front, body, put⟩ := foldl_push_popIfEmpty web path (bucket :: parts)
  rw [put] at continued
  have continued := Path.segments.inj continued
  have length : back.length = (bucket :: parts).length := by
    rw [← List.length_map fun segment : String => Percent.decode segment.toList, told, List.length_map]
  have several : 2 ≤ back.length := by
    have some := List.length_pos_iff.mpr divided
    rw [length, List.length_cons]
    omega
  have proper : withoutEmptyEnd segments ++ back ≠ [""] := by
    intro single
    have short := congrArg List.length single
    rw [List.length_append, List.length_singleton] at short
    omega
  obtain ⟨most, grown⟩ := Segments.foldl_pushed_grows name port (bucket :: parts) front
  rw [continued, Segments.body_of_ne proper, body, List.length_append, length] at most grown
  have two : segments ≠ ["", ""] := by
    rintro rfl
    have lost : (objectFront ["", ""]).length < (withoutEmptyEnd ["", ""]).length := by decide
    omega
  rw [objectFront, if_neg two] at grown
  obtain ⟨ends, apart⟩ := grown rfl
  obtain rfl := List.append_cancel_left ends
  refine ⟨two, fun part mem => ?_⟩
  rw [List.map_map, List.map_inj_left] at told
  exact (decode_written_eq_iff (apart part mem).1 (apart part mem).2).mp (told part mem)

/-- **When nothing gets lost.** -/
theorem continues_iff {bucket : String} {parts : List String} (web : base.scheme = .web name port)
    (path : base.path = .segments segments) (named : bucket ≠ "") (divided : parts ≠ []) :
    ((bucket :: parts).foldl push base.popIfEmpty).Continues base (bucket :: parts)
      ↔ segments ≠ ["", ""] ∧ ∀ part ∈ bucket :: parts, IsPlain part := by
  refine ⟨isPlain_of_continues web path divided, ?_⟩
  rintro ⟨two, plain⟩
  rw [foldl_push_of_isPlain web path named plain, objectFront, if_neg two]
  exact ⟨segments, _, path, rfl, map_decode_encodeSegment plain⟩

/-! ### Different objects -/

/-- Behind a segment without slashes stands the next one. -/
theorem cut_segment {segment : List Char} (slashless : '/' ∉ segment) (rest : List String) :
    let text := segment ++ rest.flatMap fun next => '/' :: next.toList
    text.takeWhile (· ≠ '/') = segment ∧
      text.dropWhile (· ≠ '/') = rest.flatMap fun next => '/' :: next.toList := by
  have before : ∀ c ∈ segment, decide (c ≠ '/') = true := fun c mem =>
    decide_eq_true (ne_of_mem_of_not_mem mem slashless)
  intro text
  rw [List.takeWhile_append_of_pos before, List.dropWhile_append_of_pos before]
  cases rest <;> simp

/-- Segments without slashes can be told from the text of their path. -/
theorem segments_inj {back other : List String} (slashless : ∀ segment ∈ back, '/' ∉ segment.toList)
    (slashless' : ∀ segment ∈ other, '/' ∉ segment.toList)
    (same : (back.flatMap fun segment => '/' :: segment.toList)
      = other.flatMap fun segment => '/' :: segment.toList) : back = other := by
  induction back generalizing other with
  | nil =>
    cases other with
    | nil => rfl
    | cons segment other => cases same
  | cons segment back ih =>
    cases other with
    | nil => cases same
    | cons segment' other =>
      obtain ⟨here, rest⟩ := List.forall_mem_cons.mp slashless
      obtain ⟨here', rest'⟩ := List.forall_mem_cons.mp slashless'
      have same := (List.cons.inj same).2
      obtain ⟨cut, left⟩ := cut_segment here back
      obtain ⟨cut', left'⟩ := cut_segment here' other
      have first : segment.toList = segment'.toList := by
        rw [← cut, ← cut']
        exact congrArg (List.takeWhile (· ≠ '/')) same
      have others := ih rest rest' (by
        rw [← left, ← left']
        exact congrArg (List.dropWhile (· ≠ '/')) same)
      rw [String.toList_inj.mp first, others]

theorem toList_text_segments (segments : List String) :
    (Path.segments segments).text.toList = segments.flatMap fun segment => '/' :: segment.toList := by
  rw [Path.text, String.toList_join, List.flatMap_map]
  simp only [String.toList_append]
  rfl

/-- **Urls with the same text** that differ in the ends of their paths only do not differ. -/
theorem text_inj {authority : Authority} {front back other : List String}
    (known : base.authority = some authority) (slashless : ∀ segment ∈ back, '/' ∉ segment.toList)
    (slashless' : ∀ segment ∈ other, '/' ∉ segment.toList)
    (same : { base with path := .segments (front ++ back) }.text
      = { base with path := .segments (front ++ other) }.text) : back = other := by
  simp only [text, textWithoutFragment, pathMark, known] at same
  rw [← String.toList_inj] at same
  simp only [String.toList_append, List.append_assoc, List.append_cancel_left_eq] at same
  have paths := List.append_cancel_right same
  rw [toList_text_segments, toList_text_segments, List.flatMap_append, List.flatMap_append] at paths
  exact segments_inj slashless slashless' (List.append_cancel_left paths)

/-- No slash is written for a part. -/
theorem slash_not_mem_encodeSegment (part : String) :
    '/' ∉ (encodeSegment (.web name port) part).toList := by
  rw [encodeSegment_web, String.toList_ofList]
  exact Percent.slash_not_mem_encode (by decide)

/-- **Different plain parts are written differently.** -/
theorem map_encodeSegment_inj {parts other : List String} (plain : ∀ part ∈ parts, IsPlain part)
    (plain' : ∀ part ∈ other, IsPlain part)
    (same : parts.map (encodeSegment (.web name port)) = other.map (encodeSegment (.web name port))) :
    parts = other := by
  have bytes := congrArg (List.map fun segment : String => Percent.decode segment.toList) same
  rw [map_decode_encodeSegment plain, map_decode_encodeSegment plain'] at bytes
  refine (List.map_inj_right fun part part' eq => ?_).mp bytes
  rw [Utf8.toList_toUTF8, Utf8.toList_toUTF8] at eq
  exact String.toList_inj.mp (Utf8.flatMap_encodeChar_inj eq)

/-- A url of the web has an authority and segments. -/
theorem exists_authority [DomainNames] {text : String} (parsed : parse text = .ok base)
    (web : base.scheme = .web name port) :
    ∃ authority segments, base.authority = some authority ∧ base.path = .segments segments := by
  simp only [parse] at parsed
  split at parsed
  · cases parsed
  · rename_i scheme rest scanned
    obtain ⟨⟨authority, path⟩, hierarchy, parsed⟩ := bind_eq_ok_iff.mp parsed
    obtain rfl := Except.ok.inj parsed
    obtain rfl : scheme = .web name port := web
    obtain ⟨⟨authority, rest⟩, -, hierarchy⟩ := bind_eq_ok_iff.mp hierarchy
    obtain ⟨rfl, rfl⟩ := Prod.mk.inj (Except.ok.inj hierarchy)
    cases path : pathAfterAuthority (.web name port) rest with
    | bare text => exact absurd path (pathAfterAuthority_ne_bare _ _ text)
    | segments segments => exact ⟨authority, segments, rfl, rfl⟩

end Url

/-- Keys with the same parts are the same. -/
theorem keyParts_inj {key other : String} (same : keyParts key = keyParts other) : key = other := by
  have parts : splitOn '/' key.toList = splitOn '/' other.toList :=
    (List.map_inj_right fun _ _ eq => String.ofList_injective eq).mp same
  have chars : key.toList = other.toList := by
    rw [← intercalate_splitOn '/' key.toList, parts, intercalate_splitOn]
  exact String.toList_inj.mp chars

theorem keyParts_ne_nil (key : String) : keyParts key ≠ [] := by
  rw [keyParts, ne_eq, List.map_eq_nil_iff]
  exact splitOn_ne_nil '/' key.toList

namespace Store

variable {endpoint bucket : String} {key : Option String} {base : Url}

/-- The key of the object that is read: the stage's, where there is no key. -/
def keyIn (key : Option String) (stage : Stage) : String := key.getD stage.definitionKey

/-- The bucket and the parts of the key are plain. -/
def IsPlain (bucket : String) (key : Option String) (stage : Stage) : Prop :=
  ∀ part ∈ bucket :: keyParts (keyIn key stage), Url.IsPlain part

theorem bucket_ne_of_validate [DomainNames] (valid : (objects endpoint bucket key).validate = .ok ()) : bucket ≠ "" := by
  rintro rfl
  simp only [validate] at valid
  split at valid <;> simp at valid

/-- Opening a store continues the endpoint's path. -/
theorem source_objects [DomainNames] {segments : List String} (parsed : Url.parse endpoint = .ok base)
    (path : base.path = .segments segments) (bucket : String) (key : Option String) (stage : Stage) :
    (objects endpoint bucket key).source stage
      = .ok (.object ((bucket :: keyParts (keyIn key stage)).foldl Url.push base.popIfEmpty)) := by
  simp only [source, objectUrl, parsed, path]
  rfl

/-- **Which objects a store names, and which it can tell apart.**  A store of objects that passes the check and
has an endpoint of the web has a url to read from, with the scheme, the authority and the query of the
endpoint.  Its path is that of the endpoint, without an empty segment at the end, continued by a segment for
the bucket and one for each part of the key, exactly if the endpoint's path is not two slashes and the bucket
and the parts are plain.  And with plain buckets and parts no two objects are read from the same url. -/
theorem source_continues_iff [DomainNames] {name : String} {port : Nat} (stage : Stage)
    (valid : (objects endpoint bucket key).validate = .ok ()) (parsed : Url.parse endpoint = .ok base)
    (web : base.scheme = .web name port) :
    ∃ url, (objects endpoint bucket key).source stage = .ok (.object url) ∧
      (url.scheme = base.scheme ∧ url.authority = base.authority ∧ url.query = base.query ∧
        url.fragment = base.fragment) ∧
      (url.Continues base (bucket :: keyParts (keyIn key stage))
        ↔ base.path ≠ .segments ["", ""] ∧ IsPlain bucket key stage) ∧
      ∀ bucket' key' stage' url', (objects endpoint bucket' key').validate = .ok () →
        (objects endpoint bucket' key').source stage' = .ok (.object url') →
        IsPlain bucket key stage → IsPlain bucket' key' stage' → url.text = url'.text →
        bucket = bucket' ∧ keyIn key stage = keyIn key' stage' := by
  obtain ⟨authority, segments, known, path⟩ := Url.exists_authority parsed web
  refine ⟨_, source_objects parsed path bucket key stage, ?_, ?_, ?_⟩
  · obtain ⟨front, -, put⟩ := Url.foldl_push_popIfEmpty web path (bucket :: keyParts (keyIn key stage))
    rw [put]
    exact ⟨rfl, rfl, rfl, rfl⟩
  · rw [Url.continues_iff web path (bucket_ne_of_validate valid) (keyParts_ne_nil _), path, ne_eq, ne_eq,
      Path.segments.injEq]
    rfl
  · intro bucket' key' stage' url' valid' opened plain plain' same
    rw [source_objects parsed path] at opened
    obtain rfl := Source.object.inj (Except.ok.inj opened)
    rw [Url.foldl_push_of_isPlain web path (bucket_ne_of_validate valid) plain,
      Url.foldl_push_of_isPlain web path (bucket_ne_of_validate valid') plain'] at same
    have slashless (parts : List String) :
        ∀ segment ∈ parts.map (Url.encodeSegment (.web name port)), '/' ∉ segment.toList := by
      intro segment mem
      obtain ⟨part, -, rfl⟩ := List.mem_map.mp mem
      exact Url.slash_not_mem_encodeSegment part
    have written := Url.text_inj known (slashless _) (slashless _) same
    obtain ⟨buckets, keys⟩ := List.cons.inj (Url.map_encodeSegment_inj plain plain' written)
    exact ⟨buckets, keyParts_inj keys⟩

/-- An endpoint with a path that ends with a slash, and with a query. -/
def pathedEndpoint : Url where
  scheme := .web "http" 80
  authority := some { host := .domain "s3.test", port := some 9000 }
  path := .segments ["base", ""]
  query := some "v=1"

/-- A bucket with a blank and a key with a percent sign and a question mark are named as they are, and can be
told from another object. -/
theorem blank_and_percent_named :
    ∃ url other,
      (objects "http://s3.test:9000/base/?v=1" "my bucket" (some "50%/a?b")).source .prod
        = .ok (.object url) ∧
      url.Continues pathedEndpoint ["my bucket", "50%", "a?b"] ∧ url.query = some "v=1" ∧
      (objects "http://s3.test:9000/base/?v=1" "my" (some "50%/a?b")).source .prod
        = .ok (.object other) ∧
      url.text ≠ other.text := by
  have parsed : Url.parse "http://s3.test:9000/base/?v=1" = .ok pathedEndpoint := by rfl
  have valid : (objects "http://s3.test:9000/base/?v=1" "my bucket" (some "50%/a?b")).validate = .ok () := by
    rfl
  have valid' : (objects "http://s3.test:9000/base/?v=1" "my" (some "50%/a?b")).validate = .ok () := by rfl
  have plain : IsPlain "my bucket" (some "50%/a?b") .prod := by
    change ∀ part ∈ ["my bucket", "50%", "a?b"], Url.IsPlain part
    decide
  have plain' : IsPlain "my" (some "50%/a?b") .prod := by
    change ∀ part ∈ ["my", "50%", "a?b"], Url.IsPlain part
    decide
  obtain ⟨url, opened, ⟨-, -, query, -⟩, continues, apart⟩ := source_continues_iff .prod valid parsed rfl
  have opened' := source_objects parsed rfl "my" (some "50%/a?b") .prod
  refine ⟨url, _, opened, continues.mpr ⟨by decide, plain⟩, query, opened', fun same => ?_⟩
  exact absurd (apart "my" (some "50%/a?b") .prod _ valid' opened' plain plain' same).1 (by decide)

/-- **A tab gets lost**, so that another object is read; and dots around a tab lead out of the endpoint's
path. -/
theorem tab_gets_lost :
    ∃ base url, Url.parse "http://s3.test" = .ok base ∧ base.scheme = .web "http" 80 ∧
      (objects "http://s3.test" "bucket" (some "a\tb")).validate = .ok () ∧
      (objects "http://s3.test" "bucket" (some "a\tb")).source .prod = .ok (.object url) ∧
      ¬ url.Continues base ("bucket" :: keyParts "a\tb") ∧
      (objects "http://s3.test" "bucket" (some "ab")).source .prod = .ok (.object url) ∧
      ∃ outside, (objects "http://s3.test/base" ".\t." (some "k")).validate = .ok () ∧
        (objects "http://s3.test/base" ".\t." (some "k")).source .prod = .ok (.object outside) ∧
        outside.text = "http://s3.test/k" := by
  refine ⟨_, _, rfl, rfl, rfl, rfl, ?_, rfl, _, rfl, rfl, rfl⟩
  rintro ⟨front, back, path, continued, told⟩
  obtain rfl : [""] = front := Path.segments.inj path
  obtain rfl : ["bucket", "ab"] = back := Path.segments.inj continued
  simp only [Utf8.toList_toUTF8] at told
  exact absurd told (by decide)

end Store

end OrderHerald
