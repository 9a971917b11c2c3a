import Spotuify.BinaryFloats
import Mathlib.Algebra.Ring.Int.Defs
import Mathlib.Data.List.Nodup

/-!
# JSON codecs

A codec writes the values of a type as JSON and reads them back.  Records are
read by the names of their fields, or from an array by their positions; fields
may be absent, and may be left out where they are written.  A tagged union
writes the tag of its variant beside the fields.  For each way of building a
codec there is a lemma saying exactly which values survive it.
-/

/-- A number is an integer or a finite double. -/
inductive Json where
  | null
  | bool (value : Bool)
  | integer (value : Int)
  | float (value : FiniteFloat .double)
  | string (value : String)
  | array (items : List Json)
  | object (entries : List (String × Json))

def Json.get? (key : String) : Json → Option Json
  | .object entries => entries.lookup key
  | _ => none

def Json.asString? : Json → Option String
  | .string value => some value
  | _ => none

structure JsonCodec (α : Type) where
  encode : α → Json
  decode : Json → Option α

namespace JsonCodec

variable {α β : Type}

def RoundTrips (codec : JsonCodec α) (value : α) : Prop :=
  codec.decode (codec.encode value) = some value

/-- Codecs that write no `null`, which is how a missing value is written. -/
class NonNull (codec : JsonCodec α) : Prop where
  encode_ne_null : ∀ value, codec.encode value ≠ .null

/-- Codecs that every value survives. -/
class Lossless (codec : JsonCodec α) : Prop where
  roundTrips : ∀ value, codec.RoundTrips value

@[simp]
theorem roundTrips_of_lossless {codec : JsonCodec α} [codec.Lossless]
    (value : α) : codec.RoundTrips value :=
  Lossless.roundTrips value

def bool : JsonCodec Bool where
  encode := .bool
  decode
    | .bool value => some value
    | _ => none

def string : JsonCodec String where
  encode := .string
  decode := Json.asString?

/-- The integers of a range. -/
def integer (low high : Int) (toInt : α → Int) (ofInt : Int → α) :
    JsonCodec α where
  encode value := .integer (toInt value)
  decode
    | .integer value =>
      if low ≤ value ∧ value ≤ high then some (ofInt value) else none
    | _ => none

def uint8 : JsonCodec UInt8 :=
  integer 0 (2 ^ 8 - 1) (fun value => value.toNat)
    (fun value => UInt8.ofNat value.toNat)

def uint32 : JsonCodec UInt32 :=
  integer 0 (2 ^ 32 - 1) (fun value => value.toNat)
    (fun value => UInt32.ofNat value.toNat)

def uint64 : JsonCodec UInt64 :=
  integer 0 (2 ^ 64 - 1) (fun value => value.toNat)
    (fun value => UInt64.ofNat value.toNat)

def int64 : JsonCodec Int64 :=
  integer (-2 ^ 63) (2 ^ 63 - 1) Int64.toInt Int64.ofInt

/-- Read any number as a single. -/
def readSingle : Json → Option (BinaryFloat .single)
  | .integer value => some (.ofRatio .single value 1)
  | .float value => some ((BinaryFloat.finite value).convert .single)
  | _ => none

/-- Write a double; what is not finite becomes `null`. -/
def writeDouble : BinaryFloat .double → Json
  | .finite value => .float value
  | _ => .null

def single : JsonCodec (BinaryFloat .single) where
  encode value := writeDouble (value.convert .double)
  decode := readSingle

/-- Values written as a text. -/
def text (write : α → String) (read : String → Option α) :
    JsonCodec α where
  encode value := .string (write value)
  decode json := json.asString?.bind read

/-- Unit variants: a text, or an object of one text and an empty value. -/
def unitVariant (label : α → String) (read : String → Option α) :
    JsonCodec α where
  encode value := .string (label value)
  decode
    | .string value => read value
    | .object [(value, .null)] => read value
    | .object [(value, .object [])] => read value
    | _ => none

def option (codec : JsonCodec α) : JsonCodec (Option α) where
  encode
    | none => .null
    | some value => codec.encode value
  decode
    | .null => some none
    | json => (codec.decode json).map some

def list (codec : JsonCodec α) : JsonCodec (List α) where
  encode values := .array (values.map codec.encode)
  decode
    | .array items => items.mapM codec.decode
    | _ => none

instance : NonNull bool := ⟨fun _ => Json.noConfusion⟩
instance : NonNull string := ⟨fun _ => Json.noConfusion⟩
instance (low high : Int) (toInt : α → Int) (ofInt : Int → α) :
    NonNull (integer low high toInt ofInt) := ⟨fun _ => Json.noConfusion⟩
instance : NonNull uint8 := ⟨fun _ => Json.noConfusion⟩
instance : NonNull uint32 := ⟨fun _ => Json.noConfusion⟩
instance : NonNull uint64 := ⟨fun _ => Json.noConfusion⟩
instance : NonNull int64 := ⟨fun _ => Json.noConfusion⟩
instance (write : α → String) (read : String → Option α) :
    NonNull (text write read) := ⟨fun _ => Json.noConfusion⟩
instance (label : α → String) (read : String → Option α) :
    NonNull (unitVariant label read) := ⟨fun _ => Json.noConfusion⟩
instance (codec : JsonCodec α) : NonNull (list codec) :=
  ⟨fun _ => Json.noConfusion⟩

instance : Lossless bool := ⟨fun _ => rfl⟩
instance : Lossless string := ⟨fun _ => rfl⟩

theorem integer_roundTrips {low high : Int} {toInt : α → Int}
    {ofInt : Int → α} {value : α} (above : low ≤ toInt value)
    (below : toInt value ≤ high) (back : ofInt (toInt value) = value) :
    (integer low high toInt ofInt).RoundTrips value := by
  simp [RoundTrips, integer, above, below, back]

theorem uint8_roundTrips (value : UInt8) : uint8.RoundTrips value := by
  have bounded := value.toNat_lt
  apply integer_roundTrips
  · omega
  · omega
  · simp

theorem uint32_roundTrips (value : UInt32) : uint32.RoundTrips value := by
  have bounded := value.toNat_lt
  apply integer_roundTrips
  · omega
  · omega
  · simp

theorem uint64_roundTrips (value : UInt64) : uint64.RoundTrips value := by
  have bounded := value.toNat_lt
  apply integer_roundTrips
  · omega
  · omega
  · simp

theorem int64_roundTrips (value : Int64) : int64.RoundTrips value := by
  apply integer_roundTrips
  · exact value.le_toInt
  · have bounded := value.toInt_lt
    omega
  · simp

instance : Lossless uint8 := ⟨uint8_roundTrips⟩
instance : Lossless uint32 := ⟨uint32_roundTrips⟩
instance : Lossless uint64 := ⟨uint64_roundTrips⟩
instance : Lossless int64 := ⟨int64_roundTrips⟩

/-- Exactly the finite singles survive. -/
@[simp]
theorem single_roundTrips_iff (value : BinaryFloat .single) :
    single.RoundTrips value ↔ value.isFinite = true := by
  have finite := BinaryFloat.isFinite_convert value
  have back := BinaryFloat.convert_convert value
  simp only [RoundTrips, single]
  cases converted : value.convert .double with
  | finite double =>
    rw [converted] at finite back
    exact iff_of_true (congrArg some back) finite.symm
  | infinite negative =>
    rw [converted] at finite
    rw [← finite]
    refine iff_of_false ?_ Bool.false_ne_true
    rintro ⟨⟩
  | nan =>
    rw [converted] at finite
    rw [← finite]
    refine iff_of_false ?_ Bool.false_ne_true
    rintro ⟨⟩

@[simp]
theorem text_roundTrips_iff {write : α → String} {read : String → Option α}
    {value : α} :
    (text write read).RoundTrips value ↔ read (write value) = some value :=
  .rfl

@[simp]
theorem unitVariant_roundTrips_iff {label : α → String}
    {read : String → Option α} {value : α} :
    (unitVariant label read).RoundTrips value ↔
      read (label value) = some value :=
  .rfl

@[simp]
theorem option_roundTrips_iff {codec : JsonCodec α} [codec.NonNull]
    {value : Option α} :
    (option codec).RoundTrips value ↔
      ∀ present ∈ value, codec.RoundTrips present := by
  cases value with
  | none => simp [RoundTrips, option]
  | some present =>
    have notNull := @NonNull.encode_ne_null _ codec _ present
    simp only [RoundTrips, option, Option.mem_def, Option.some.injEq,
      forall_eq']
    cases written : codec.encode present <;> simp_all

@[simp]
theorem list_roundTrips_iff {codec : JsonCodec α} {values : List α} :
    (list codec).RoundTrips values ↔
      ∀ value ∈ values, codec.RoundTrips value := by
  simp only [RoundTrips, list]
  induction values with
  | nil => simp
  | cons value rest ih =>
    simp only [List.map_cons, List.mapM_cons, List.forall_mem_cons, ← ih]
    cases codec.decode (codec.encode value) with
    | none => simp
    | some read =>
      cases (rest.map codec.encode).mapM codec.decode with
      | none => simp
      | some others => simp

instance (codec : JsonCodec α) [codec.NonNull] [codec.Lossless] :
    Lossless (option codec) :=
  ⟨fun _ => option_roundTrips_iff.mpr fun _ _ => roundTrips_of_lossless _⟩

instance (codec : JsonCodec α) [codec.Lossless] : Lossless (list codec) :=
  ⟨fun _ => list_roundTrips_iff.mpr fun _ _ => roundTrips_of_lossless _⟩

end JsonCodec

/-- A field of a record: what its absence means, by name and by position, and
for which values it is left out. -/
structure JsonField (α : Type) where
  name : String
  codec : JsonCodec α
  absent : Option α
  absentAt : Option α
  skipped : α → Bool

namespace JsonField

variable {α : Type}

def required (name : String) (codec : JsonCodec α) : JsonField α where
  name := name
  codec := codec
  absent := none
  absentAt := none
  skipped _ := false

/-- A required field whose missing value is written as `null` and may be left
out by name. -/
def nullable (name : String) (codec : JsonCodec α) : JsonField (Option α) where
  name := name
  codec := codec.option
  absent := some none
  absentAt := none
  skipped _ := false

/-- A field that is read as a default where it is absent. -/
def defaulted (name : String) (codec : JsonCodec α) (default : α) :
    JsonField α where
  name := name
  codec := codec
  absent := some default
  absentAt := some default
  skipped _ := false

/-- A field with a default that is left out for some values. -/
def skippable (name : String) (codec : JsonCodec α) (default : α)
    (skipped : α → Bool) : JsonField α where
  name := name
  codec := codec
  absent := some default
  absentAt := some default
  skipped := skipped

/-- A field that is left out where it has no value. -/
def optional (name : String) (codec : JsonCodec α) : JsonField (Option α) :=
  skippable name codec.option none Option.isNone

/-- A list that is left out where it is empty. -/
def nonEmpty (name : String) (codec : JsonCodec α) : JsonField (List α) :=
  skippable name codec.list [] List.isEmpty

variable (field : JsonField α)

/-- The entry of a value, if it is not left out. -/
def toEntry (value : α) : List (String × Json) :=
  if field.skipped value then [] else [(field.name, field.codec.encode value)]

def read (entries : List (String × Json)) : Option α :=
  match entries.lookup field.name with
  | some json => field.codec.decode json
  | none => field.absent

/-- The values that survive. -/
def Holds (value : α) : Prop :=
  if field.skipped value then field.absent = some value
  else field.codec.RoundTrips value

variable {field} {value : α} {name : String} {codec : JsonCodec α}

theorem lookup_eq_none {key : String} {entries : List (String × Json)}
    (fresh : key ∉ entries.map Prod.fst) : entries.lookup key = none := by
  rw [List.lookup_eq_none_iff]
  intro entry member
  rw [bne_iff_ne]
  rintro rfl
  exact fresh (List.mem_map_of_mem member)

theorem read_toEntry_iff {others : List (String × Json)}
    (fresh : field.name ∉ others.map Prod.fst) :
    field.read (field.toEntry value ++ others) = some value ↔
      field.Holds value := by
  have missing := lookup_eq_none fresh
  cases skips : field.skipped value <;>
    simp [read, toEntry, Holds, skips, missing, JsonCodec.RoundTrips]

@[simp]
theorem required_holds_iff :
    (required name codec).Holds value ↔ codec.RoundTrips value := by
  simp [Holds, required]

@[simp]
theorem nullable_holds_iff [codec.NonNull] {value : Option α} :
    (nullable name codec).Holds value ↔
      ∀ present ∈ value, codec.RoundTrips present := by
  simp [Holds, nullable]

@[simp]
theorem defaulted_holds_iff {default : α} :
    (defaulted name codec default).Holds value ↔ codec.RoundTrips value := by
  simp [Holds, defaulted]

@[simp]
theorem skippable_holds_iff {default : α} {skipped : α → Bool} :
    (skippable name codec default skipped).Holds value ↔
      if skipped value then value = default else codec.RoundTrips value := by
  simp [Holds, skippable, @eq_comm _ default]

@[simp]
theorem optional_holds_iff [codec.NonNull] {value : Option α} :
    (optional name codec).Holds value ↔
      ∀ present ∈ value, codec.RoundTrips present := by
  cases value <;> simp [optional]

@[simp]
theorem nonEmpty_holds_iff {values : List α} :
    (nonEmpty name codec).Holds values ↔
      ∀ value ∈ values, codec.RoundTrips value := by
  cases values <;> simp [nonEmpty]

end JsonField

/-- The fields of a record, one after another. -/
inductive JsonRecord : Type → Type 1 where
  | nil : JsonRecord Unit
  | cons {α β : Type} (field : JsonField α) (rest : JsonRecord β) :
    JsonRecord (α × β)

namespace JsonRecord

variable {α β : Type}

def names : {β : Type} → JsonRecord β → List String
  | _, .nil => []
  | _, .cons field rest => field.name :: rest.names

def toEntries : {β : Type} → JsonRecord β → β → List (String × Json)
  | _, .nil, () => []
  | _, .cons field rest, (value, others) =>
    field.toEntry value ++ rest.toEntries others

def fromEntries (entries : List (String × Json)) :
    {β : Type} → JsonRecord β → Option β
  | _, .nil => some ()
  | _, .cons field rest => do
    let value ← field.read entries
    let others ← rest.fromEntries entries
    some (value, others)

/-- Read the fields by their positions. -/
def fromItems : {β : Type} → JsonRecord β → List Json → Option β
  | _, .nil, [] => some ()
  | _, .nil, _ :: _ => none
  | _, .cons field rest, [] => do
    let value ← field.absentAt
    let others ← rest.fromItems []
    some (value, others)
  | _, .cons field rest, item :: items => do
    let value ← field.codec.decode item
    let others ← rest.fromItems items
    some (value, others)

def Holds : {β : Type} → JsonRecord β → β → Prop
  | _, .nil, () => True
  | _, .cons field rest, (value, others) =>
    field.Holds value ∧ rest.Holds others

@[simp]
theorem holds_nil (parts : Unit) : nil.Holds parts := trivial

@[simp]
theorem holds_cons {field : JsonField α} {rest : JsonRecord β} {value : α}
    {others : β} :
    (cons field rest).Holds (value, others) ↔
      field.Holds value ∧ rest.Holds others := .rfl

theorem keys_toEntries_subset (record : JsonRecord β) (parts : β) :
    (record.toEntries parts).map Prod.fst ⊆ record.names := by
  induction record with
  | nil => exact List.nil_subset _
  | cons field rest ih =>
    obtain ⟨value, others⟩ := parts
    simp only [toEntries, names, JsonField.toEntry, List.map_append]
    split
    · exact List.subset_cons_of_subset _ (ih others)
    · exact List.cons_subset_cons _ (ih others)

/-- Entries under other names do not matter. -/
theorem fromEntries_append {record : JsonRecord β}
    {others entries : List (String × Json)}
    (fresh : ∀ name ∈ record.names, name ∉ others.map Prod.fst) :
    record.fromEntries (others ++ entries) = record.fromEntries entries := by
  induction record with
  | nil => rfl
  | cons field rest ih =>
    have missing := JsonField.lookup_eq_none
      (fresh field.name (List.mem_cons_self ..))
    have restFresh := fun name member =>
      fresh name (List.mem_cons_of_mem _ member)
    simp only [fromEntries, ih restFresh, JsonField.read, List.lookup_append,
      missing, Option.none_or]

/-- A record is read back exactly if each of its fields survives. -/
theorem fromEntries_toEntries_iff {record : JsonRecord β}
    (distinct : record.names.Nodup) {parts : β} :
    record.fromEntries (record.toEntries parts) = some parts ↔
      record.Holds parts := by
  induction record with
  | nil => exact iff_of_true rfl trivial
  | cons field rest ih =>
    obtain ⟨value, others⟩ := parts
    obtain ⟨fresh, restDistinct⟩ := List.nodup_cons.mp distinct
    have restFresh : ∀ name ∈ rest.names,
        name ∉ (field.toEntry value).map Prod.fst := by
      intro name member
      simp only [JsonField.toEntry]
      split
      · exact List.not_mem_nil
      · rw [List.map_singleton, List.mem_singleton]
        rintro rfl
        exact fresh member
    have readFirst := @JsonField.read_toEntry_iff _ field value _ fun member =>
      fresh (rest.keys_toEntries_subset others member)
    rw [holds_cons, ← readFirst, ← ih restDistinct]
    simp only [fromEntries, toEntries, fromEntries_append restFresh]
    cases field.read (field.toEntry value ++ rest.toEntries others) with
    | none => simp
    | some read =>
      cases rest.fromEntries (rest.toEntries others) with
      | none => simp
      | some readOthers => simp

/-- A type that has the parts of a record. -/
def codec (record : JsonRecord β) (parts : α → β) (build : β → α) :
    JsonCodec α where
  encode value := .object (record.toEntries (parts value))
  decode
    | .object entries => (record.fromEntries entries).map build
    | .array items => (record.fromItems items).map build
    | _ => none

variable {record : JsonRecord β} {parts : α → β} {build : β → α}

instance : (record.codec parts build).NonNull := ⟨fun _ => Json.noConfusion⟩

theorem codec_roundTrips_iff (distinct : record.names.Nodup)
    (builds : ∀ value, build (parts value) = value)
    (separates : ∀ built, parts (build built) = built) {value : α} :
    (record.codec parts build).RoundTrips value ↔
      record.Holds (parts value) := by
  rw [← fromEntries_toEntries_iff distinct]
  simp only [JsonCodec.RoundTrips, codec, Option.map_eq_some_iff]
  constructor
  · rintro ⟨built, read, rfl⟩
    rw [separates] at read ⊢
    exact read
  · intro read
    exact ⟨parts value, read, builds value⟩

end JsonRecord

/-- What stands beside a tag. -/
inductive JsonBody : Type → Type 1 where
  | unit : JsonBody Unit
  | fields {β : Type} (record : JsonRecord β) : JsonBody β

namespace JsonBody

def names : {β : Type} → JsonBody β → List String
  | _, .unit => []
  | _, .fields record => record.names

def toEntries : {β : Type} → JsonBody β → β → List (String × Json)
  | _, .unit, () => []
  | _, .fields record, parts => record.toEntries parts

def fromEntries (entries : List (String × Json)) :
    {β : Type} → JsonBody β → Option β
  | _, .unit => some ()
  | _, .fields record => record.fromEntries entries

def fromItems : {β : Type} → JsonBody β → List Json → Option β
  | _, .unit, items => if items.isEmpty then some () else none
  | _, .fields record, items => record.fromItems items

def Holds : {β : Type} → JsonBody β → β → Prop
  | _, .unit, _ => True
  | _, .fields record, parts => record.Holds parts

theorem fromEntries_toEntries_iff {β : Type} {body : JsonBody β}
    {parts : β} {others : List (String × Json)}
    (distinct : body.names.Nodup)
    (fresh : ∀ name ∈ body.names, name ∉ others.map Prod.fst) :
    body.fromEntries (others ++ body.toEntries parts) = some parts ↔
      body.Holds parts := by
  cases body with
  | unit => exact iff_of_true rfl trivial
  | fields record =>
    simp only [fromEntries, toEntries, JsonRecord.fromEntries_append fresh]
    exact JsonRecord.fromEntries_toEntries_iff distinct

end JsonBody

/-- A variant of a tagged union. -/
structure JsonVariant (α : Type) where
  label : String
  {Parts : Type}
  body : JsonBody Parts
  build : Parts → α

namespace JsonVariant

variable {α : Type} (tag : String) (variants : List (JsonVariant α))

def encode (variant : JsonVariant α) (parts : variant.Parts) : Json :=
  .object ((tag, .string variant.label) :: variant.body.toEntries parts)

def find? (label : Json) : Option (JsonVariant α) :=
  label.asString?.bind fun label =>
    variants.find? fun variant => variant.label == label

/-- Read a union from an object, or from an array that starts with the tag. -/
def decode : Json → Option α
  | .object entries =>
    ((entries.lookup tag).bind (find? variants)).bind fun variant =>
      (variant.body.fromEntries entries).map variant.build
  | .array (label :: items) =>
    (find? variants label).bind fun variant =>
      (variant.body.fromItems items).map variant.build
  | _ => none

/-- The variants can be told apart, and each one's fields from one another and
from the tag. -/
structure Separate : Prop where
  labels : (variants.map label).Nodup
  names : ∀ variant ∈ variants, (tag :: variant.body.names).Nodup

variable {tag variants}

theorem find?_label {variant : JsonVariant α}
    (distinct : (variants.map label).Nodup) (member : variant ∈ variants) :
    find? variants (.string variant.label) = some variant := by
  simp only [find?, Json.asString?, Option.bind_some]
  induction variants with
  | nil => exact absurd member List.not_mem_nil
  | cons first rest ih =>
    obtain ⟨fresh, restDistinct⟩ := List.nodup_cons.mp distinct
    rcases List.mem_cons.mp member with rfl | inRest
    · simp
    · have other : first.label ≠ variant.label := by
        intro same
        exact fresh (same ▸ List.mem_map_of_mem inRest)
      simp only [List.find?_cons, beq_eq_false_iff_ne.mpr other]
      exact ih restDistinct inRest

theorem decode_encode_eq (separate : Separate tag variants)
    {variant : JsonVariant α} (member : variant ∈ variants)
    {parts : variant.Parts} :
    decode tag variants (variant.encode tag parts) =
      (variant.body.fromEntries ([(tag, .string variant.label)] ++
        variant.body.toEntries parts)).map variant.build := by
  simp only [decode, encode, List.lookup_cons_self, Option.bind_some,
    find?_label separate.labels member, List.singleton_append]

theorem fromEntries_encode_iff (separate : Separate tag variants)
    {variant : JsonVariant α} (member : variant ∈ variants)
    {parts : variant.Parts} :
    variant.body.fromEntries ([(tag, .string variant.label)] ++
        variant.body.toEntries parts) = some parts ↔
      variant.body.Holds parts := by
  obtain ⟨fresh, distinct⟩ :=
    List.nodup_cons.mp (separate.names variant member)
  refine JsonBody.fromEntries_toEntries_iff distinct ?_
  intro name inBody
  rw [List.map_singleton, List.mem_singleton]
  rintro rfl
  exact fresh inBody

/-- A variant is read back if its parts survive. -/
theorem decode_encode (separate : Separate tag variants)
    {variant : JsonVariant α} (member : variant ∈ variants)
    {parts : variant.Parts} (holds : variant.body.Holds parts) :
    decode tag variants (variant.encode tag parts) =
      some (variant.build parts) := by
  rw [decode_encode_eq separate member,
    (fromEntries_encode_iff separate member).mpr holds, Option.map_some]

theorem decode_encode_iff (separate : Separate tag variants)
    {variant : JsonVariant α} (member : variant ∈ variants)
    (injective : Function.Injective variant.build) {parts : variant.Parts} :
    decode tag variants (variant.encode tag parts) =
        some (variant.build parts) ↔
      variant.body.Holds parts := by
  rw [decode_encode_eq separate member,
    ← fromEntries_encode_iff separate member, Option.map_eq_some_iff]
  constructor
  · rintro ⟨read, found, same⟩
    exact injective same ▸ found
  · intro found
    exact ⟨parts, found, rfl⟩

theorem mem_of_find? {variant : JsonVariant α} {label : Json}
    (found : find? variants label = some variant) : variant ∈ variants := by
  obtain ⟨text, -, found⟩ := Option.bind_eq_some_iff.mp found
  exact List.mem_of_find?_eq_some found

/-- What is read was built by a variant. -/
theorem exists_of_decode {json : Json} {value : α}
    (decoded : decode tag variants json = some value) :
    ∃ variant ∈ variants, ∃ parts, variant.build parts = value := by
  simp only [decode] at decoded
  split at decoded
  · obtain ⟨variant, found, decoded⟩ := Option.bind_eq_some_iff.mp decoded
    obtain ⟨label, -, found⟩ := Option.bind_eq_some_iff.mp found
    obtain ⟨parts, -, built⟩ := Option.map_eq_some_iff.mp decoded
    exact ⟨variant, mem_of_find? found, parts, built⟩
  · obtain ⟨variant, found, decoded⟩ := Option.bind_eq_some_iff.mp decoded
    obtain ⟨parts, -, built⟩ := Option.map_eq_some_iff.mp decoded
    exact ⟨variant, mem_of_find? found, parts, built⟩
  · cases decoded

/-- An object under another tag is no value of the union. -/
theorem decode_eq_none {json : Json} {label : String}
    (tagged : json.get? tag = some (.string label))
    (unknown : label ∉ variants.map JsonVariant.label) :
    decode tag variants json = none := by
  cases json with
  | object entries =>
    have missing : variants.find? (fun variant => variant.label == label) =
        none := by
      rw [List.find?_eq_none]
      intro variant member same
      exact unknown (beq_iff_eq.mp same ▸ List.mem_map_of_mem member)
    simp only [decode, show entries.lookup tag = _ from tagged,
      Option.bind_some, find?, Json.asString?, missing, Option.bind_none]
  | _ => cases tagged

end JsonVariant
