import OrderHerald.Proofs.Order.Held

/-!
# What in an image does not matter

The items of the order book have more attributes than orders are read from, and any of them may be null.
Neither the others nor the nulls matter: two images that hold the same under the names that are looked at are
read as the same order, or refused for the same reason.

**A null is nothing.**  What is left under a name when the nulls are dropped is all that any question to an
image depends on, for its result and for its error.

**Which clock is looked at** is for the type to say.  A type that is not read, because it is missing or has
no meaning, says that none is.

* `Image.kept` — what is left under a name when nulls are dropped.
* `Image.SameClocks` — two cosigner attributes hold the same clocks.
* `StoredOrder.commonNames` — the names that are looked at for every order.

## Main statements

* `StoredOrder.ofImage_congr` — images that agree on what is looked at are read alike.
* `StoredOrder.ofImage_indifferent` — nulls, other attributes and the clocks of other types do not matter.
* `StoredOrder.ofImage_withoutNulls` — an image may as well be read without its nulls.
-/

namespace OrderHerald

variable {image other : Image} {name : String}

/-- The value is no null. -/
def AttributeValue.isPresent (value : AttributeValue) : Bool :=
  value.key ≠ "NULL"

namespace Image

/-- **What is left under a name when nulls are dropped.** -/
def kept (image : Image) (name : String) : Option AttributeValue :=
  (image.lookup name).filter AttributeValue.isPresent

theorem attribute?_eq_kept : image.attribute? name = image.kept name := by
  unfold attribute? kept
  cases image.lookup name with
  | none => rfl
  | some value => cases value <;> rfl

theorem kept_cons_of_ne {key : String} {value : AttributeValue} (h : name ≠ key) :
    kept ((key, value) :: image) name = image.kept name := by
  rw [kept, List.lookup_cons, beq_eq_false_iff_ne.mpr h, kept]

theorem kept_cons_self {value : AttributeValue} :
    kept ((name, value) :: image) name = (some value).filter AttributeValue.isPresent := by
  rw [kept, List.lookup_cons_self]

/-- An image without its nulls. -/
def withoutNulls (image : Image) : Image :=
  image.filter fun entry => entry.2.isPresent

/-- **Where each name stands once**, what is left under a name is what stands there in the image without its
nulls. -/
theorem lookup_withoutNulls (distinct : (List.map Prod.fst image).Nodup) :
    image.withoutNulls.lookup name = image.kept name := by
  unfold withoutNulls
  induction image with
  | nil => rfl
  | cons entry rest ih =>
    obtain ⟨key, value⟩ := entry
    obtain ⟨new, distinctRest⟩ := List.nodup_cons.mp distinct
    rw [List.filter_cons]
    dsimp only
    by_cases here : name = key
    · subst here
      rw [kept_cons_self]
      split
      · rename_i present
        rw [List.lookup_cons_self, Option.filter_some_pos present]
      · rename_i null
        rw [Bool.not_eq_true] at null
        -- Behind the null the name does not stand again.
        have behind : List.lookup name rest = none := by
          refine List.lookup_eq_none_iff.mpr fun entry mem => bne_iff_ne.mpr ?_
          rintro rfl
          exact new (List.mem_map.mpr ⟨entry, mem, rfl⟩)
        rw [ih distinctRest, kept, behind, Option.filter_none, Option.filter_some_neg null]
    · rw [kept_cons_of_ne here, ← ih distinctRest]
      split
      · rw [List.lookup_cons, beq_eq_false_iff_ne.mpr here]
      · rfl

/-- Dropping the nulls once is enough. -/
theorem kept_withoutNulls (distinct : (List.map Prod.fst image).Nodup) :
    image.withoutNulls.kept name = image.kept name := by
  rw [kept, lookup_withoutNulls distinct, kept, Option.filter_filter]
  simp only [Bool.and_self]

/-! ### Questions to an image -/

section Readers

variable (same : image.kept name = other.kept name)
include same

theorem optionalString_congr : image.optionalString name = other.optionalString name := by
  unfold optionalString
  rw [attribute?_eq_kept, attribute?_eq_kept, same]

theorem string_congr : image.string name = other.string name := by
  rw [string, optionalString_congr same, string]

theorem uint64_congr : image.uint64 name = other.uint64 name := by
  unfold uint64 number optionalNumber
  rw [attribute?_eq_kept, attribute?_eq_kept, same]

end Readers

/-- **Two cosigner attributes hold the same clocks**: there is none in either image, both are maps that agree
on the clocks, or neither is a map. -/
inductive SameClocks : Option AttributeValue → Option AttributeValue → Prop where
  | absent : SameClocks none none
  | maps {cosigner cosigner' : Image}
      (start : cosigner.kept "decayStartTime" = cosigner'.kept "decayStartTime")
      (stop : cosigner.kept "decayEndTime" = cosigner'.kept "decayEndTime")
      (block : cosigner.kept "decayStartBlock" = cosigner'.kept "decayStartBlock") :
      SameClocks (some (.map cosigner)) (some (.map cosigner'))
  | others {value value' : AttributeValue} (h : value.key ≠ "M") (h' : value'.key ≠ "M") :
      SameClocks (some value) (some value')

theorem SameClocks.refl (value : Option AttributeValue) : SameClocks value value := by
  cases value with
  | none => exact .absent
  | some value =>
    cases value with
    | map cosigner => exact .maps rfl rfl rfl
    | _ => exact .others (by simp) (by simp)

theorem map_of_not_map {value : AttributeValue} (there : image.kept name = some value)
    (h : value.key ≠ "M") : image.map name = .error (.wrongType name "M") := by
  rw [map, attribute?_eq_kept, there]
  cases value with
  | map cosigner => exact absurd rfl h
  | _ => rfl

/-- Whatever is read of the clocks alone of two cosigner attributes is the same. -/
theorem SameClocks.map_bind {α : Type} {next : Image → Except ImageError α}
    (same : SameClocks (image.kept name) (other.kept name))
    (clocks : ∀ cosigner cosigner' : Image,
      cosigner.kept "decayStartTime" = cosigner'.kept "decayStartTime" →
      cosigner.kept "decayEndTime" = cosigner'.kept "decayEndTime" →
      cosigner.kept "decayStartBlock" = cosigner'.kept "decayStartBlock" →
      next cosigner = next cosigner') :
    (image.map name >>= next) = (other.map name >>= next) := by
  generalize here : image.kept name = value at same
  generalize there : other.kept name = value' at same
  cases same with
  | absent =>
    rw [map, map, attribute?_eq_kept, attribute?_eq_kept, here, there]
  | maps start stop block =>
    rw [map, map, attribute?_eq_kept, attribute?_eq_kept, here, there]
    exact clocks _ _ start stop block
  | others h h' => rw [map_of_not_map here h, map_of_not_map there h']

end Image

/-! ### The clock of a type -/

/-- **The clock that an image holds** depends on the attribute that the type needs for it, and on no other. -/
theorem Variant.ofImage_congr {type : OrderType}
    (auction : type = .priority →
      image.kept "auctionStartBlock" = other.kept "auctionStartBlock")
    (cosigner : type = .dutchV2 ∨ type = .dutchV3 →
      Image.SameClocks (image.kept "cosignerData") (other.kept "cosignerData")) :
    ofImage type image = ofImage type other := by
  cases type with
  | dutchV2 =>
    refine (cosigner (.inl rfl)).map_bind fun first second start stop _ => ?_
    rw [Image.uint64_congr start, Image.uint64_congr stop]
  | dutchV3 =>
    refine (cosigner (.inr rfl)).map_bind fun first second _ _ block => ?_
    rw [Image.uint64_congr block]
  | priority =>
    show (image.uint64 "auctionStartBlock" >>= _) = (other.uint64 "auctionStartBlock" >>= _)
    rw [Image.uint64_congr (auction rfl)]
  | _ => rfl

/-! ### Orders -/

namespace StoredOrder

/-- **The names that are looked at for every order.** -/
def commonNames : List String :=
  ["type", "orderHash", "createdAt", "signature", "swapper", "orderStatus", "encodedOrder", "chainId",
    "quoteId", "filler"]

/-- A type that is read is the text under its name. -/
theorem kept_type_of_typeOfImage {type : OrderType} (read : typeOfImage image = .ok (some type)) :
    image.kept "type" = some (.string type.name) := by
  have there : image.lookup "type" = some (.string type.name) := typeOfImage_eq_ok_iff.mp read
  rw [Image.kept, there]
  rfl

/-- **Images that agree on what is looked at are read alike**: on the common names, and on the clock that
the type names. -/
theorem ofImage_congr (common : ∀ name ∈ commonNames, image.kept name = other.kept name)
    (auction : image.kept "type" = some (.string "Priority") →
      image.kept "auctionStartBlock" = other.kept "auctionStartBlock")
    (cosigner : image.kept "type" = some (.string "Dutch_V2") ∨
        image.kept "type" = some (.string "Dutch_V3") →
      Image.SameClocks (image.kept "cosignerData") (other.kept "cosignerData")) :
    ofImage image = ofImage other := by
  have text : ∀ name ∈ commonNames, image.string name = other.string name :=
    fun name mem => Image.string_congr (common name mem)
  have optional : ∀ name ∈ commonNames, image.optionalString name = other.optionalString name :=
    fun name mem => Image.optionalString_congr (common name mem)
  have number : ∀ name ∈ commonNames, image.uint64 name = other.uint64 name :=
    fun name mem => Image.uint64_congr (common name mem)
  have typed : typeOfImage image = typeOfImage other := by
    rw [typeOfImage, optional "type" (by decide), typeOfImage]
  have status : statusOfImage image = statusOfImage other := by
    rw [statusOfImage, text "orderStatus" (by decide), statusOfImage]
  rw [ofImage, ofImage, ← typed]
  cases read : typeOfImage image with
  | error reason => rfl
  | ok type =>
    have clock : Variant.ofImage (type.getD .dutch) image = Variant.ofImage (type.getD .dutch) other := by
      cases type with
      | none => rfl
      | some type =>
        have named := kept_type_of_typeOfImage read
        apply Variant.ofImage_congr
        · rintro rfl
          exact auction named
        · rintro (rfl | rfl)
          · exact cosigner (.inl named)
          · exact cosigner (.inr named)
    simp only [status, text "orderHash" (by decide), text "signature" (by decide),
      text "swapper" (by decide), text "encodedOrder" (by decide), number "createdAt" (by decide),
      number "chainId" (by decide), optional "quoteId" (by decide), optional "filler" (by decide)]
    show (Variant.ofImage (type.getD .dutch) image >>= _)
      = (Variant.ofImage (type.getD .dutch) other >>= _)
    rw [clock]

/-- **Nothing else matters.**  Two images are read as the same order, or refused for the same reason, if they
hold the same, nulls dropped,

* under the common names, as block from which an auction begins, and as clocks of the cosigner;
* under every name but that of the block from which an auction begins, and their type is not the one of
  auctioned orders;
* under every name but that of the cosigner's attribute, and their type is none of those whose clock the
  cosigner fills in. -/
theorem ofImage_indifferent (image other : Image) :
    ((∀ name ∈ commonNames, image.kept name = other.kept name) →
        image.kept "auctionStartBlock" = other.kept "auctionStartBlock" →
        Image.SameClocks (image.kept "cosignerData") (other.kept "cosignerData") →
          ofImage image = ofImage other) ∧
      ((∀ name, name ≠ "auctionStartBlock" → image.kept name = other.kept name) →
        image.kept "type" ≠ some (.string "Priority") → ofImage image = ofImage other) ∧
      ((∀ name, name ≠ "cosignerData" → image.kept name = other.kept name) →
        image.kept "type" ≠ some (.string "Dutch_V2") →
        image.kept "type" ≠ some (.string "Dutch_V3") → ofImage image = ofImage other) := by
  have others : ∀ name ∈ commonNames, name ≠ "auctionStartBlock" ∧ name ≠ "cosignerData" := by decide
  refine ⟨fun common auction cosigner => ?_, fun same type => ?_, fun same second third => ?_⟩
  · exact ofImage_congr common (fun _ => auction) fun _ => cosigner
  · refine ofImage_congr (fun name mem => same name (others name mem).1)
      (fun auctioned => absurd auctioned type) fun _ => ?_
    rw [same "cosignerData" (by decide)]
    exact .refl _
  · refine ofImage_congr (fun name mem => same name (others name mem).2)
      (fun _ => same "auctionStartBlock" (by decide)) fun cosigned => ?_
    exact (cosigned.elim second third).elim

/-- An image with more attributes than the one of a clocked order; under the names at which that one has
nothing that is looked at, it has nulls. -/
def crowdedImage : Image :=
  [("auctionStartBlock", .null false), ("chainId", .number "1"),
    ("cosignerData", .map [("cosigner", .string "0xC"), ("decayEndTime", .number "1700000070"),
      ("decayStartBlock", .null true), ("decayStartTime", .number "1700000010")]),
    ("createdAt", .number "1700000000"), ("encodedOrder", .string "0xencoded"),
    ("filler", .string "0xF"), ("input", .list [.bool true]), ("orderHash", .string "0xhash"),
    ("orderStatus", .string "open"), ("signature", .string "0xsig"), ("swapper", .string "0xZ"),
    ("type", .string "Dutch_V2")]

theorem crowdedImage_indifferent :
    let limit : Image := [("type", .string "Limit")]
    crowdedImage.length ≠ clockedImage.length ∧ ofImage crowdedImage = ofImage clockedImage ∧
      ofImage (("auctionStartBlock", .string "soon") :: clockedImage) = ofImage clockedImage ∧
      ofImage (("cosignerData", .string "0xC") :: limit) = ofImage limit := by
  intro limit
  refine ⟨by decide, ?_, ?_, ?_⟩
  · have same : commonNames.map crowdedImage.kept = commonNames.map clockedImage.kept := rfl
    exact (ofImage_indifferent _ _).1 (List.map_inj_left.mp same) rfl (.maps rfl rfl rfl)
  · have type : Image.kept (("auctionStartBlock", .string "soon") :: clockedImage) "type"
        = some (.string "Dutch_V2") := rfl
    exact (ofImage_indifferent _ _).2.1 (fun _ other => Image.kept_cons_of_ne other)
      (type.trans_ne (by simp))
  · have type : Image.kept (("cosignerData", .string "0xC") :: limit) "type" = some (.string "Limit") :=
      rfl
    exact (ofImage_indifferent _ _).2.2 (fun _ other => Image.kept_cons_of_ne other)
      (type.trans_ne (by simp)) (type.trans_ne (by simp))

/-- **An image may as well be read without its nulls.** -/
theorem ofImage_withoutNulls (distinct : (List.map Prod.fst image).Nodup) :
    ofImage image.withoutNulls = ofImage image := by
  refine ofImage_congr (fun _ _ => ?_) (fun _ => ?_) fun _ => ?_
  · exact Image.kept_withoutNulls distinct
  · exact Image.kept_withoutNulls distinct
  · rw [Image.kept_withoutNulls distinct]
    exact .refl _

end StoredOrder

end OrderHerald
