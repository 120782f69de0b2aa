import OrderHerald.Proofs.Order.Demands
import OrderHerald.Proofs.Store.Opening

/-!
# Which images hold an order

The demands on an image stand in an order.  The type comes first, because it decides which clock is asked
for; then come the attributes of the clock and those that every order has.

**An order stands in an image** if each of its fields does, and this is when the image is read as that order:
no field is read from anything but its attribute, and nothing else is looked at.

* `StoredOrder.demands` — what is asked of an image.
* `StoredOrder.IsOf` — the order stands in the image, field by field.

## Main statements

* `StoredOrder.ofImage_eq_ok_iff` — an image is read as the order that stands in it.
* `StoredOrder.ofImage_judged` — which images are read, and what is wrong with the others.
-/

namespace OrderHerald

variable {α : Type} {image : Image}

/-! ### What is asked of an image -/

namespace StoredOrder

/-- A number between attributes of the map that the cosigner filled in. -/
def cosignedNumber (name : String) : Demand :=
  { name, form := .number, within := some "cosignerData" }

/-- **What the clock of a type needs.** -/
def clockDemands : Option OrderType → List Demand
  | some .dutchV2 =>
    [{ name := "cosignerData", form := .map }, cosignedNumber "decayStartTime",
      cosignedNumber "decayEndTime"]
  | some .dutchV3 => [{ name := "cosignerData", form := .map }, cosignedNumber "decayStartBlock"]
  | some .priority => [{ name := "auctionStartBlock", form := .number }]
  | _ => []

/-- What every order needs. -/
def commonDemands : List Demand :=
  [{ name := "orderHash", form := .text }, { name := "createdAt", form := .number },
    { name := "signature", form := .text }, { name := "swapper", form := .text },
    { name := "orderStatus", form := .status }, { name := "encodedOrder", form := .text },
    { name := "chainId", form := .number }, { name := "quoteId", form := .text, optional := true },
    { name := "filler", form := .text, optional := true }]

/-- The type that an image names, if there is such a type. -/
def namedType? (image : Image) : Option OrderType :=
  match image.lookup "type" with
  | some (.string name) => OrderType.ofName? name
  | _ => none

/-- **The demands on an image that is to hold an order**, in the order in which they are looked at. -/
def demands (image : Image) : List Demand :=
  { name := "type", form := .type, optional := true } :: (clockDemands (namedType? image) ++ commonDemands)

end StoredOrder

/-! ### What the readers give -/

namespace Image

variable {name text : String}

/-- A number stands under a name, in whatever digits. -/
def CarriesNumber (image : Image) (name : String) (n : UInt64) : Prop :=
  ∃ digits, image.lookup name = some (.number digits) ∧ Decimal.Spells digits n

theorem optionalString_eq_ok_iff {value : Option String} :
    image.optionalString name = .ok value ↔ image.CarriesText name value := by
  refine ⟨fun read => ?_, optionalString_of_carries⟩
  unfold optionalString at read
  cases there : image.attribute? name with
  | none =>
    rw [there] at read
    obtain rfl := Except.ok.inj read
    exact attribute?_eq_none_iff.mp there
  | some value =>
    rw [there] at read
    cases value with
    | string text =>
      obtain rfl := Except.ok.inj read
      exact (attribute?_eq_some_iff.mp there).1
    | _ => cases read

theorem needed_eq_ok_iff {result : Except ImageError (Option α)} {value : α} :
    needed name result = .ok value ↔ result = .ok (some value) := by
  cases result with
  | error reason => exact ⟨nofun, nofun⟩
  | ok value => cases value <;> simp [needed]

theorem string_eq_ok_iff :
    image.string name = .ok text ↔ image.lookup name = some (.string text) := by
  rw [string, needed_eq_ok_iff, optionalString_eq_ok_iff]
  rfl

theorem map_eq_ok_iff {entries : Image} :
    image.map name = .ok entries ↔ image.lookup name = some (.map entries) := by
  unfold map
  constructor
  · intro read
    cases there : image.attribute? name with
    | none =>
      rw [there] at read
      cases read
    | some value =>
      rw [there] at read
      cases value with
      | map entries =>
        obtain rfl := Except.ok.inj read
        exact (attribute?_eq_some_iff.mp there).1
      | _ => cases read
  · intro there
    have shown : image.attribute? name = some (.map entries) :=
      attribute?_eq_some_iff.mpr ⟨there, by simp⟩
    rw [shown]

theorem uint64_eq_ok_iff {n : UInt64} : image.uint64 name = .ok n ↔ image.CarriesNumber name n := by
  rw [uint64, number, needed_eq_ok_iff, optionalNumber]
  constructor
  · intro read
    cases there : image.attribute? name with
    | none =>
      rw [there] at read
      cases read
    | some value =>
      rw [there] at read
      cases value with
      | number digits =>
        refine ⟨digits, (attribute?_eq_some_iff.mp there).1, Decimal.uint64?_eq_some_iff.mp ?_⟩
        cases spelled : Decimal.uint64? digits with
        | none =>
          simp only [spelled] at read
          cases read
        | some found =>
          simp only [spelled] at read
          rw [Option.some.inj (Except.ok.inj read)]
      | _ => cases read
  · rintro ⟨digits, there, spelled⟩
    have shown : image.attribute? name = some (.number digits) :=
      attribute?_eq_some_iff.mpr ⟨there, by simp⟩
    simp only [shown, Decimal.uint64?_eq_some_iff.mpr spelled]

end Image

/-! ### Orders that stand in an image -/

namespace Variant

/-- **The clock stands in the image.** -/
def StandsIn (image : Image) : Variant → Prop
  | dutch => True
  | dutchV2 start stop => ∃ cosigner, image.lookup "cosignerData" = some (.map cosigner) ∧
      Image.CarriesNumber cosigner "decayStartTime" start ∧
      Image.CarriesNumber cosigner "decayEndTime" stop
  | dutchV3 start => ∃ cosigner, image.lookup "cosignerData" = some (.map cosigner) ∧
      Image.CarriesNumber cosigner "decayStartBlock" start
  | priority start => image.CarriesNumber "auctionStartBlock" start
  | limit => True

/-- No order is stored with the type that asks for two. -/
theorem orderType_ne_dutchV1V2 (variant : Variant) : variant.orderType ≠ .dutchV1V2 := by
  cases variant <;> nofun

theorem ofImage_eq_ok_iff {type : OrderType} {variant : Variant} :
    ofImage type image = .ok variant ↔ variant.orderType = type ∧ variant.StandsIn image := by
  cases type <;> cases variant <;>
    simp [ofImage, bind_eq_ok_iff, orderType, StandsIn, Image.map_eq_ok_iff, Image.uint64_eq_ok_iff]

end Variant

namespace StoredOrder

/-- **The order stands in the image**, field by field. -/
structure IsOf (stored : StoredOrder) (image : Image) : Prop where
  orderHash : image.lookup "orderHash" = some (.string stored.order.orderHash)
  createdAt : image.CarriesNumber "createdAt" stored.order.createdAt
  signature : image.lookup "signature" = some (.string stored.order.signature)
  swapper : image.lookup "swapper" = some (.string stored.order.swapper)
  orderStatus : image.lookup "orderStatus" = some (.string stored.order.orderStatus.name)
  encodedOrder : image.lookup "encodedOrder" = some (.string stored.order.encodedOrder)
  chainId : image.CarriesNumber "chainId" stored.order.chainId
  orderType : image.CarriesText "type" (stored.order.orderType.map OrderType.name)
  quoteId : image.CarriesText "quoteId" stored.order.quoteId
  filler : image.CarriesText "filler" stored.order.filler
  /-- The clock is the one of the order's type; without a type that is the first one of the Dutch. -/
  type : stored.variant.orderType = stored.order.orderType.getD .dutch
  clock : stored.variant.StandsIn image

theorem typeOfImage_eq_ok_iff {type : Option OrderType} :
    typeOfImage image = .ok type ↔ image.CarriesText "type" (type.map OrderType.name) := by
  rw [typeOfImage, bind_eq_ok_iff]
  simp only [Image.optionalString_eq_ok_iff]
  constructor
  · rintro ⟨value, carried, read⟩
    cases value with
    | none =>
      obtain rfl := Except.ok.inj read
      exact carried
    | some name =>
      cases named : OrderType.ofName? name with
      | none => simp [named] at read
      | some type =>
        simp only [named, Except.ok.injEq] at read
        subst read
        rwa [Option.map_some, OrderType.ofName?_eq_some_iff.mp named]
  · intro carried
    refine ⟨_, carried, ?_⟩
    cases type with
    | none => rfl
    | some type => simp only [Option.map_some, OrderType.ofName?_name]

theorem statusOfImage_eq_ok_iff {status : OrderStatus} :
    statusOfImage image = .ok status
      ↔ image.lookup "orderStatus" = some (.string status.name) := by
  rw [statusOfImage, bind_eq_ok_iff]
  simp only [Image.string_eq_ok_iff]
  constructor
  · rintro ⟨name, there, read⟩
    cases named : OrderStatus.ofName? name with
    | none => simp [named] at read
    | some status =>
      simp only [named, Except.ok.injEq] at read
      subst read
      rwa [OrderStatus.ofName?_eq_some_iff.mp named]
  · intro there
    exact ⟨_, there, by simp only [OrderStatus.ofName?_name]⟩

/-- **An image is read as the order that stands in it.** -/
theorem ofImage_eq_ok_iff {stored : StoredOrder} : ofImage image = .ok stored ↔ stored.IsOf image := by
  simp only [ofImage, bind_eq_ok_iff, typeOfImage_eq_ok_iff, Variant.ofImage_eq_ok_iff,
    Image.string_eq_ok_iff, Image.uint64_eq_ok_iff, statusOfImage_eq_ok_iff,
    Image.optionalString_eq_ok_iff]
  constructor
  · rintro ⟨orderType, typed, variant, ⟨type, clock⟩, orderHash, hash, createdAt, created, signature,
      signed, swapper, swapped, orderStatus, status, encodedOrder, encoded, chainId, chain, quoteId,
      quoted, filler, filled, read⟩
    obtain rfl := Except.ok.inj read
    exact ⟨hash, created, signed, swapped, status, encoded, chain, typed, quoted, filled, type, clock⟩
  · intro h
    exact ⟨_, h.orderType, _, ⟨h.type, h.clock⟩, _, h.orderHash, _, h.createdAt, _, h.signature, _,
      h.swapper, _, h.orderStatus, _, h.encodedOrder, _, h.chainId, _, h.quoteId, _, h.filler, rfl⟩

theorem namedType?_of_typeOfImage {type : Option OrderType} (h : typeOfImage image = .ok type) :
    namedType? image = type := by
  have carried := typeOfImage_eq_ok_iff.mp h
  cases type with
  | none =>
    rcases carried with absent | ⟨value, null⟩
    · rw [namedType?, absent]
    · rw [namedType?, null]
  | some type =>
    have there : image.lookup "type" = some (.string type.name) := carried
    rw [namedType?, there]
    exact OrderType.ofName?_name type

/-! ### The reader answers to the demands -/

/-- The type that an image names, if it is one that an order is stored with. -/
def storableType (image : Image) : Except ImageError (Option OrderType) := do
  match ← typeOfImage image with
  | some .dutchV1V2 => .error (.unsupportedType .dutchV1V2)
  | type => .ok type

theorem storableType_eq_ok_iff {type : Option OrderType} :
    storableType image = .ok type ↔ typeOfImage image = .ok type ∧ type ≠ some .dutchV1V2 := by
  unfold storableType
  rw [bind_eq_ok_iff]
  constructor
  · rintro ⟨type, read, kept⟩
    split at kept
    · cases kept
    · rename_i other
      obtain rfl := Except.ok.inj kept
      exact ⟨read, other⟩
  · rintro ⟨read, other⟩
    refine ⟨type, read, ?_⟩
    split
    · exact absurd rfl other
    · rfl

/-- Whoever goes on with the type and refuses the one that asks for two might refuse it at once. -/
theorem typeOfImage_bind {next : Option OrderType → Except ImageError α}
    (refused : next (some .dutchV1V2) = .error (.unsupportedType .dutchV1V2)) :
    typeOfImage image >>= next = storableType image >>= next := by
  unfold storableType
  cases typeOfImage image with
  | error reason => rfl
  | ok type =>
    match type with
    | some .dutchV1V2 => exact refused
    | none | some .dutch | some .dutchV2 | some .dutchV3 | some .priority | some .limit => rfl

theorem answers_type (image : Image) :
    Answers [{ name := "type", form := .type, optional := true }] image (storableType image) := by
  refine answers_attribute (fun absent => .inl ⟨rfl, none, ?_⟩) fun value there => ?_
  all_goals change image.attribute? "type" = _ at *
  · simp only [storableType, typeOfImage, Image.optionalString, absent, bind, Except.bind]
  · cases value with
    | string name =>
      cases read : OrderType.ofName? name with
      | none =>
        have unknown : ∀ type : OrderType, type.name ≠ name := fun type named => by
          rw [OrderType.ofName?_eq_some_iff.mpr named] at read
          cases read
        refine .inr ⟨_, .unknownType unknown, ?_⟩
        simp only [storableType, typeOfImage, Image.optionalString, there, bind, Except.bind, read]
      | some type =>
        obtain rfl := OrderType.ofName?_eq_some_iff.mp read
        by_cases question : type = .dutchV1V2
        · subst question
          refine .inr ⟨_, .unsupportedType, ?_⟩
          simp only [storableType, typeOfImage, Image.optionalString, there, bind, Except.bind, read]
        · refine .inl ⟨⟨type, rfl, question⟩, some type, ?_⟩
          simp only [storableType, typeOfImage, Image.optionalString, there, bind, Except.bind, read]
          cases type with
          | dutchV1V2 => exact absurd rfl question
          | _ => rfl
    | _ =>
      refine .inr ⟨_, .wrongType (by simp), ?_⟩
      simp only [storableType, typeOfImage, Image.optionalString, there, Form.key]
      rfl

theorem answers_status (image : Image) :
    Answers [{ name := "orderStatus", form := .status }] image (statusOfImage image) := by
  refine answers_attribute (fun absent => .inr ⟨rfl, ?_⟩) fun value there => ?_
  all_goals change image.attribute? "orderStatus" = _ at *
  · simp only [statusOfImage, Image.string, Image.optionalString, absent, Image.needed]
    rfl
  · cases value with
    | string name =>
      cases read : OrderStatus.ofName? name with
      | none =>
        have unknown : ∀ status : OrderStatus, status.name ≠ name := fun status named => by
          rw [OrderStatus.ofName?_eq_some_iff.mpr named] at read
          cases read
        refine .inr ⟨_, .unknownStatus unknown, ?_⟩
        simp only [statusOfImage, Image.string, Image.optionalString, there, Image.needed, bind,
          Except.bind, read]
      | some status =>
        refine .inl ⟨⟨status, OrderStatus.ofName?_eq_some_iff.mp read⟩, status, ?_⟩
        simp only [statusOfImage, Image.string, Image.optionalString, there, Image.needed, bind,
          Except.bind, read]
    | _ =>
      refine .inr ⟨_, .wrongType (by simp), ?_⟩
      simp only [statusOfImage, Image.string, Image.optionalString, there, Image.needed, Form.key]
      rfl

theorem answers_cosignedNumber {cosigner : Image} (read : image.map "cosignerData" = .ok cosigner)
    (name : String) : Answers [cosignedNumber name] image (cosigner.uint64 name) := by
  have place : (cosignedNumber name).place image = cosigner := by
    simp only [cosignedNumber, Demand.place, Image.map_eq_ok_iff.mp read]
  have answers := image.answers_uint64 name (some "cosignerData")
  rwa [show Demand.place { name, form := .number, within := some "cosignerData" } image = cosigner
    from place] at answers

/-- The clock of a type that an order is stored with answers to the demands of that clock. -/
theorem answers_clock {type : Option OrderType} (stored : type ≠ some .dutchV1V2) :
    Answers (clockDemands type) image (Variant.ofImage (type.getD .dutch) image) := by
  match type, stored with
  | none, _ | some .dutch, _ | some .limit, _ => exact answers_nil _
  | some .dutchV2, _ =>
    refine (image.answers_map "cosignerData").bind fun cosigner read => ?_
    refine (answers_cosignedNumber read "decayStartTime").bind fun start _ => ?_
    exact (answers_cosignedNumber read "decayEndTime").bind fun stop _ => answers_nil _
  | some .dutchV3, _ =>
    refine (image.answers_map "cosignerData").bind fun cosigner read => ?_
    exact (answers_cosignedNumber read "decayStartBlock").bind fun start _ => answers_nil _
  | some .priority, _ =>
    exact (image.answers_uint64 "auctionStartBlock" none).bind fun start _ => answers_nil _
  | some .dutchV1V2, stored => exact absurd rfl stored

/-- **The reader of orders answers to the demands on its image.** -/
theorem answers_ofImage (image : Image) : Answers (demands image) image (ofImage image) := by
  rw [ofImage, typeOfImage_bind rfl]
  refine (answers_type image).bind fun type read => ?_
  obtain ⟨named, kept⟩ := storableType_eq_ok_iff.mp read
  rw [namedType?_of_typeOfImage named]
  refine (answers_clock kept).bind fun variant _ => ?_
  refine (image.answers_string "orderHash").bind fun orderHash _ => ?_
  refine (image.answers_uint64 "createdAt" none).bind fun createdAt _ => ?_
  refine (image.answers_string "signature").bind fun signature _ => ?_
  refine (image.answers_string "swapper").bind fun swapper _ => ?_
  refine (answers_status image).bind fun orderStatus _ => ?_
  refine (image.answers_string "encodedOrder").bind fun encodedOrder _ => ?_
  refine (image.answers_uint64 "chainId" none).bind fun chainId _ => ?_
  refine (image.answers_optionalString "quoteId").bind fun quoteId _ => ?_
  exact (image.answers_optionalString "filler").bind fun filler _ => answers_nil _

/-- **Which images hold an order, and which order.**  An image is read exactly if every demand on it is met:
those on its type, those on the clock of this type and those on every order.  The order that is read stands
in the image field by field; it has no type exactly if the image has none, and its clock is then the one of
the first Dutch orders.  An image that is not read has the fault of the first demand that it does not meet. -/
theorem ofImage_judged (image : Image) :
    ((∃ stored, ofImage image = .ok stored) ↔ ∀ demand ∈ demands image, demand.Met image) ∧
      (∀ stored, ofImage image = .ok stored →
        stored.IsOf image ∧ (stored.order.orderType = none ↔ image.Lacks "type") ∧
          stored.variant.orderType = stored.order.orderType.getD .dutch ∧
          stored.variant.orderType ≠ .dutchV1V2) ∧
      ∀ e, ofImage image = .error e ↔ FirstFault (demands image) image e := by
  have answers := answers_ofImage image
  refine ⟨answers.ok_iff, fun stored read => ?_, answers.error_iff⟩
  have held := ofImage_eq_ok_iff.mp read
  refine ⟨held, ?_, held.type, stored.variant.orderType_ne_dutchV1V2⟩
  have carried := held.orderType
  cases typed : stored.order.orderType with
  | none =>
    rw [typed] at carried
    exact iff_of_true rfl carried
  | some type =>
    have there : image.lookup "type" = some (.string type.name) := by rwa [typed] at carried
    refine iff_of_false nofun ?_
    rintro (absent | ⟨value, null⟩)
    · rw [there] at absent
      cases absent
    · rw [there] at null
      cases null

theorem clockedImage_judged :
    let stored : StoredOrder := ⟨⟨"0xhash", 1700000000, "0xsig", "0xZ", .open, "0xencoded", 1,
      some .dutchV2, none, some "0xF"⟩, .dutchV2 1700000010 1700000070⟩
    let spoilt : Image := ("createdAt", .number "18446744073709551616") :: clockedImage
    ofImage clockedImage = .ok stored ∧ stored.IsOf clockedImage ∧
      FirstFault (demands spoilt) spoilt (.invalidNumber "createdAt" "18446744073709551616") := by
  intro stored spoilt
  have read : ofImage clockedImage = .ok stored := by rfl
  have refused : ofImage spoilt = .error (.invalidNumber "createdAt" "18446744073709551616") := by rfl
  exact ⟨read, ((ofImage_judged clockedImage).2.1 stored read).1, ((ofImage_judged spoilt).2.2 _).mp refused⟩

end StoredOrder

end OrderHerald
