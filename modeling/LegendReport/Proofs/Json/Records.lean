import LegendReport.Json.Records
import LegendReport.Proofs.Json.Fields

/-!
# Records that survive as JSON

Each kind of record has its encodings: the JSON values that stand for it, with the
members of every object in any order and among others, or with an array of the fields in place
of the object.  Reading accepts the encodings of a value and gives that value.  What is written
of a value is one of its encodings, as long as its counts fit into a machine word; so it is
read back, and so is what is written of a value that was read.

An object that lacks a field is rejected at every level of a record, and so is an integer that
is no count where a count is expected.

All of this passes from the items of a list to the list, and from the last field of a record to
the record, so each kind of record needs only to say what its fields are read as.
-/

namespace LegendReport

namespace Json

section Meaning

variable {α β : Type}

/-- A count is encoded as an integer, as long as it fits into a machine word. -/
def EncodesCount (json : Json) (n : Nat) : Prop :=
  json = .integer n ∧ n < UInt64.size

inductive IsFaultyCount : Json → Prop where
  | outOfRange
      {value : Int}
      (hrange : IsOutOfRange value) :
      IsFaultyCount (.integer value)

/-- A list is encoded as an array of encodings. -/
def EncodesList (Encodes : Json → α → Prop) (json : Json) (found : List α) : Prop :=
  ∃ items, json = .array items ∧ List.Forall₂ Encodes items found

def IsFaultyList (IsFaulty : Json → Prop) (json : Json) : Prop :=
  ∃ items, json = .array items ∧ ∃ item ∈ items, IsFaulty item

/-- The values of the leading fields are fixed, and the last one stands for a part of the record. -/
def EndsInPart
    (lead : α → List Json)
    (part : α → β)
    (StandsFor : Json → β → Prop)
    (values : List Json)
    (a : α) : Prop :=
  ∃ last, values = lead a ++ [last] ∧ StandsFor last (part a)

def EndsFaulty (IsFaulty : Json → Prop) (values : List Json) : Prop :=
  ∃ lead last, values = lead ++ [last] ∧ IsFaulty last

/-- The value is a record of the named fields, with values that stand for something. -/
def EncodesRecord
    (names : List String)
    (AreValues : List Json → α → Prop)
    (json : Json)
    (a : α) : Prop :=
  ∃ values, json.HasFields names values ∧ AreValues values a

/-- The value is no record of the named fields because one of them is missing, or it is one with
values that are wrong for it. -/
inductive IsFaultyRecord (names : List String) (AreWrong : List Json → Prop) : Json → Prop where
  | lacking
      {members : List (String × Json)}
      {name : String}
      (hname : name ∈ names)
      (hlacking : name ∉ members.map Prod.fst) :
      IsFaultyRecord names AreWrong (.object members)
  | wrong
      {json : Json}
      {values : List Json}
      (hfields : HasFields names values json)
      (hwrong : AreWrong values) :
      IsFaultyRecord names AreWrong json

/-- What writing and reading a kind of value have to do with its encodings. -/
structure IsLawful
    (write : α → Json)
    (read? : Json → Option α)
    (Fits : α → Prop)
    (Encodes : Json → α → Prop)
    (IsFaulty : Json → Prop) : Prop where
  encodes_write : ∀ a, Fits a → Encodes (write a) a
  read_of_encodes : ∀ json a, Encodes json a → read? json = some a
  encodes_of_read : ∀ json a, json.DistinctNames → read? json = some a → Encodes json a
  fits_of_read : ∀ json a, read? json = some a → Fits a
  read_of_isFaulty : ∀ json, IsFaulty json → read? json = none

/-- The same for a kind of record, of which nothing is read but the values of its fields. -/
structure IsLawfulRecord
    (names : List String)
    (write : α → Json)
    (read? : Json → Option α)
    (Fits : α → Prop)
    (Encodes : Json → α → Prop)
    (IsFaulty : Json → Prop) : Prop
    extends IsLawful write read? Fits Encodes IsFaulty where
  read_congr : ∀ json json', json.record? names = json'.record? names → read? json = read? json'

/-- A kind of value survives: its values are read back, also those that were read; the parsed values
that are read are its encodings, and the faulty ones are rejected. -/
structure Survives
    (write : α → Json)
    (read? : Json → Option α)
    (Fits : α → Prop)
    (Encodes : Json → α → Prop)
    (IsFaulty : Json → Prop) : Prop where
  read_write : ∀ a, Fits a → read? (write a) = some a
  read_again : ∀ json a, read? json = some a → read? (write a) = some a
  read_iff : ∀ json a, json.DistinctNames → (read? json = some a ↔ Encodes json a)
  read_of_isFaulty : ∀ json, IsFaulty json → read? json = none

/-- A kind of record survives, and all forms with the same values of its fields are read alike. -/
structure SurvivesAsRecord
    (names : List String)
    (write : α → Json)
    (read? : Json → Option α)
    (Fits : α → Prop)
    (Encodes : Json → α → Prop)
    (IsFaulty : Json → Prop) : Prop
    extends Survives write read? Fits Encodes IsFaulty where
  read_forms :
    ∀ values json json',
      HasFields names values json → HasFields names values json' → read? json = read? json'

end Meaning

section Laws

variable {α : Type} {write : α → Json} {read? : Json → Option α} {Fits : α → Prop}
variable {Encodes : Json → α → Prop} {IsFaulty : Json → Prop}

theorem IsLawful.survives
    (h : IsLawful write read? Fits Encodes IsFaulty) :
    Survives write read? Fits Encodes IsFaulty where
  read_write := fun a hfits => h.read_of_encodes (write a) a (h.encodes_write a hfits)
  read_again := by
    intro json a hread
    exact h.read_of_encodes (write a) a (h.encodes_write a (h.fits_of_read json a hread))
  read_iff := fun json a hjson => ⟨h.encodes_of_read json a hjson, h.read_of_encodes json a⟩
  read_of_isFaulty := h.read_of_isFaulty

theorem isLawful_count :
    IsLawful (fun (n : Nat) => .integer n) count? (· < UInt64.size) EncodesCount
      IsFaultyCount where
  encodes_write := fun _ hfits => ⟨rfl, hfits⟩
  read_of_encodes := fun _ _ => count?_eq_some_iff.mpr
  encodes_of_read := fun _ _ _ => count?_eq_some_iff.mp
  fits_of_read := fun _ _ hread => (count?_eq_some_iff.mp hread).2
  read_of_isFaulty := by
    rintro json ⟨hrange⟩
    rw [Option.eq_none_iff_forall_ne_some]
    intro n hread
    obtain ⟨⟨⟩, hfits⟩ := count?_eq_some_iff.mp hread
    exact not_isOutOfRange hfits hrange

/-- Lists of lawful values are lawful. -/
theorem IsLawful.list
    (h : IsLawful write read? Fits Encodes IsFaulty) :
    IsLawful (fun found => .array (found.map write)) (list? read?)
      (fun found => ∀ a ∈ found, Fits a) (EncodesList Encodes) (IsFaultyList IsFaulty) where
  encodes_write := by
    intro found hfits
    refine ⟨found.map write, rfl, ?_⟩
    rw [List.forall₂_map_left_iff, List.forall₂_same]
    exact fun a ha => h.encodes_write a (hfits a ha)
  read_of_encodes := by
    rintro json found ⟨items, rfl, hitems⟩
    exact list?_eq_some_iff.mpr ⟨items, rfl, hitems.imp h.read_of_encodes⟩
  encodes_of_read := by
    intro json found hjson hread
    obtain ⟨items, rfl, hitems⟩ := list?_eq_some_iff.mp hread
    cases hjson with
    | array hdistinct =>
        have hboth := (List.forall₂_and_left items found).mpr ⟨hdistinct, hitems⟩
        exact ⟨items, rfl, hboth.imp fun item a hitem => h.encodes_of_read item a hitem.1 hitem.2⟩
  fits_of_read := by
    intro json found hread a ha
    obtain ⟨items, -, hitems⟩ := list?_eq_some_iff.mp hread
    obtain ⟨item, -, hitem⟩ := exists_mem_of_forall₂ hitems.flip ha
    exact h.fits_of_read item a hitem
  read_of_isFaulty := by
    rintro json ⟨items, rfl, item, hitem, hfaulty⟩
    rw [Option.eq_none_iff_forall_ne_some]
    intro found hread
    obtain ⟨_, ⟨⟩, hitems⟩ := list?_eq_some_iff.mp hread
    obtain ⟨a, -, ha⟩ := exists_mem_of_forall₂ hitems hitem
    rw [h.read_of_isFaulty item hfaulty] at ha
    cases ha

end Laws

section Records

variable {α β : Type} {names : List String} {write : α → Json} {read? : Json → Option α}
variable {Fits : α → Prop} {Encodes : Json → α → Prop} {IsFaulty : Json → Prop}

theorem IsLawfulRecord.survivesAsRecord
    (h : IsLawfulRecord names write read? Fits Encodes IsFaulty) :
    SurvivesAsRecord names write read? Fits Encodes IsFaulty where
  toSurvives := h.survives
  read_forms := by
    intro values json json' hfields hfields'
    exact h.read_congr json json' (hfields.record?_eq.trans hfields'.record?_eq.symm)

/-- A kind of record is lawful if the values of its fields are: what is read is decided by these,
they are read as what they stand for, and none of them is wrong. -/
theorem isLawfulRecord_of_values
    {ReadAs AreValues : List Json → α → Prop}
    {AreWrong : List Json → Prop}
    (hnames : names.Nodup)
    (hread :
      ∀ json a, read? json = some a ↔
        ∃ values, json.record? names = some values ∧ ReadAs values a)
    (hwrite :
      ∀ a, Fits a →
        ∃ values, write a = .object (names.zip values) ∧ values.length = names.length ∧
          AreValues values a)
    (hvalues : ∀ values a, AreValues values a → ReadAs values a)
    (hencodes :
      ∀ values a, (∀ value ∈ values, value.DistinctNames) → ReadAs values a → AreValues values a)
    (hfits : ∀ values a, ReadAs values a → Fits a)
    (hright : ∀ values a, ReadAs values a → ¬ AreWrong values) :
    IsLawfulRecord names write read? Fits (EncodesRecord names AreValues)
      (IsFaultyRecord names AreWrong) where
  encodes_write := by
    intro a ha
    obtain ⟨values, hobject, hlength, hvalues⟩ := hwrite a ha
    exact ⟨values, hobject ▸ hasFields_object hnames hlength, hvalues⟩
  read_of_encodes := by
    rintro json a ⟨values, hfields, ha⟩
    exact (hread json a).mpr ⟨values, hfields.record?_eq, hvalues values a ha⟩
  encodes_of_read := by
    intro json a hjson ha
    obtain ⟨values, hrecord, ha⟩ := (hread json a).mp ha
    have hfields := hasFields_of_record? hnames hjson hrecord
    exact ⟨values, hfields, hencodes values a (hfields.distinctNames hjson) ha⟩
  fits_of_read := by
    intro json a ha
    obtain ⟨values, -, ha⟩ := (hread json a).mp ha
    exact hfits values a ha
  read_of_isFaulty := by
    intro json hfaulty
    rw [Option.eq_none_iff_forall_ne_some]
    intro a ha
    obtain ⟨values, hrecord, ha⟩ := (hread json a).mp ha
    cases hfaulty with
    | lacking hname hlacking =>
        rw [record?_of_lacking hname hlacking] at hrecord
        cases hrecord
    | @wrong json values' hfields hwrong =>
        rw [hfields.record?_eq] at hrecord
        obtain rfl := Option.some.inj hrecord
        exact hright values' a ha hwrong
  read_congr := by
    intro json json' h
    apply Option.ext
    intro a
    rw [hread, hread, h]

/-- A kind of record is lawful if its last field is, and the others are read as they are written. -/
theorem isLawfulRecord_of_part
    {writePart : β → Json}
    {readPart? : Json → Option β}
    {PartFits : β → Prop}
    {EncodesPart : Json → β → Prop}
    {IsPartFaulty : Json → Prop}
    {lead : α → List Json}
    {part : α → β}
    (hpart : IsLawful writePart readPart? PartFits EncodesPart IsPartFaulty)
    (hnames : names.Nodup)
    (hread :
      ∀ json a, read? json = some a ↔
        ∃ values, json.record? names = some values ∧
          EndsInPart lead part (fun last b => readPart? last = some b) values a)
    (hwrite :
      ∀ a, write a = .object (names.zip (lead a ++ [writePart (part a)])) ∧
        (lead a).length + 1 = names.length) :
    IsLawfulRecord names write read? (fun a => PartFits (part a))
      (EncodesRecord names (EndsInPart lead part EncodesPart))
      (IsFaultyRecord names (EndsFaulty IsPartFaulty)) := by
  refine isLawfulRecord_of_values hnames hread ?write ?values ?encodes ?fits ?right
  case write =>
    intro a hfits
    obtain ⟨hobject, hlength⟩ := hwrite a
    refine ⟨lead a ++ [writePart (part a)], hobject, ?_, _, rfl, ?_⟩
    · rw [List.length_append, List.length_singleton, hlength]
    · exact hpart.encodes_write (part a) hfits
  case values =>
    rintro values a ⟨last, rfl, hlast⟩
    exact ⟨last, rfl, hpart.read_of_encodes last (part a) hlast⟩
  case encodes =>
    rintro values a hdistinct ⟨last, rfl, hlast⟩
    exact ⟨last, rfl, hpart.encodes_of_read last (part a) (hdistinct last (by simp)) hlast⟩
  case fits =>
    rintro values a ⟨last, -, hlast⟩
    exact hpart.fits_of_read last (part a) hlast
  case right =>
    rintro values a ⟨last, rfl, hlast⟩ ⟨_, faulty, hvalues, hfaulty⟩
    obtain ⟨-, hsame⟩ := List.append_inj' hvalues rfl
    obtain rfl := List.singleton_inj.mp hsame
    rw [hpart.read_of_isFaulty last hfaulty] at hlast
    cases hlast

end Records

end Json

open Json

namespace Segment

/-- The occurrence number is a machine word. -/
def Fits (segment : Segment) : Prop :=
  segment.occurrence < UInt64.size

def AreValues (values : List Json) (segment : Segment) : Prop :=
  segment.Fits ∧
    values =
      [.string segment.name, .bool segment.qualified, .integer segment.occurrence,
        .string segment.token]

def Encodes : Json → Segment → Prop :=
  EncodesRecord fieldNames AreValues

def IsFaulty : Json → Prop :=
  IsFaultyRecord fieldNames fun values =>
    ∃ name qualified occurrence token,
      values = [name, qualified, .integer occurrence, token] ∧ IsOutOfRange occurrence

theorem ofJson?_eq_some_iff
    {json : Json}
    {segment : Segment} :
    ofJson? json = some segment ↔
      ∃ values, json.record? fieldNames = some values ∧ AreValues values segment := by
  rw [ofJson?, Option.bind_eq_bind, Option.bind_eq_some_iff]
  refine exists_congr fun values => and_congr_right fun _ => ?_
  constructor
  · intro h
    split at h
    · simp only [Option.bind_eq_bind, Option.bind_eq_some_iff, Option.pure_def, Option.some.injEq,
        string?_eq_some_iff, bool?_eq_some_iff, count?_eq_some_iff] at h
      obtain ⟨_, rfl, _, rfl, _, ⟨rfl, hfits⟩, _, rfl, rfl⟩ := h
      exact ⟨hfits, rfl⟩
    · cases h
  · rintro ⟨hfits, rfl⟩
    simp [count?_integer hfits]

theorem isLawful :
    IsLawfulRecord fieldNames toJson ofJson? Fits Encodes IsFaulty := by
  refine isLawfulRecord_of_values (by decide) (fun _ _ => ofJson?_eq_some_iff) ?write
    (fun _ _ => id) (fun _ _ _ => id) (fun _ _ => And.left) ?right
  case write => exact fun segment hfits => ⟨_, rfl, rfl, hfits, rfl⟩
  case right =>
    rintro values segment ⟨hfits, rfl⟩ ⟨_, _, _, _, ⟨⟩, hrange⟩
    exact not_isOutOfRange hfits hrange

end Segment

namespace Column

def Fits (column : Column) : Prop :=
  ∀ segment ∈ column.path, segment.Fits

def Encodes : Json → Column → Prop :=
  EncodesRecord fieldNames <|
    EndsInPart (fun column => [.string column.header]) path (EncodesList Segment.Encodes)

def IsFaulty : Json → Prop :=
  IsFaultyRecord fieldNames (EndsFaulty (IsFaultyList Segment.IsFaulty))

theorem ofJson?_eq_some_iff
    {json : Json}
    {column : Column} :
    ofJson? json = some column ↔
      ∃ values, json.record? fieldNames = some values ∧
        EndsInPart (fun column => [.string column.header]) path
          (fun last path => last.list? Segment.ofJson? = some path) values column := by
  rw [ofJson?, Option.bind_eq_bind, Option.bind_eq_some_iff]
  refine exists_congr fun values => and_congr_right fun _ => ?_
  constructor
  · intro h
    split at h
    · simp only [Option.bind_eq_bind, Option.bind_eq_some_iff, Option.pure_def, Option.some.injEq,
        string?_eq_some_iff] at h
      obtain ⟨_, rfl, path, hpath, rfl⟩ := h
      exact ⟨_, rfl, hpath⟩
    · cases h
  · rintro ⟨last, rfl, hpath⟩
    simp [hpath]

theorem isLawful :
    IsLawfulRecord fieldNames toJson ofJson? Fits Encodes IsFaulty :=
  isLawfulRecord_of_part Segment.isLawful.list (by decide) (fun _ _ => ofJson?_eq_some_iff)
    fun _ => ⟨rfl, rfl⟩

end Column

namespace Legend

def Fits (legend : Legend) : Prop :=
  ∀ column ∈ legend.columns, column.Fits

def Encodes : Json → Legend → Prop :=
  EncodesRecord fieldNames (EndsInPart (fun _ => []) columns (EncodesList Column.Encodes))

def IsFaulty : Json → Prop :=
  IsFaultyRecord fieldNames (EndsFaulty (IsFaultyList Column.IsFaulty))

theorem ofJson?_eq_some_iff
    {json : Json}
    {legend : Legend} :
    ofJson? json = some legend ↔
      ∃ values, json.record? fieldNames = some values ∧
        EndsInPart (fun _ => []) columns
          (fun last columns => last.list? Column.ofJson? = some columns) values legend := by
  rw [ofJson?, Option.bind_eq_bind, Option.bind_eq_some_iff]
  refine exists_congr fun values => and_congr_right fun _ => ?_
  constructor
  · intro h
    split at h
    · simp only [Option.bind_eq_bind, Option.bind_eq_some_iff, Option.pure_def,
        Option.some.injEq] at h
      obtain ⟨columns, hcolumns, rfl⟩ := h
      exact ⟨_, rfl, hcolumns⟩
    · cases h
  · rintro ⟨last, rfl, hcolumns⟩
    simp [hcolumns]

theorem isLawful :
    IsLawfulRecord fieldNames toJson ofJson? Fits Encodes IsFaulty :=
  isLawfulRecord_of_part Column.isLawful.list (by decide) (fun _ _ => ofJson?_eq_some_iff)
    fun _ => ⟨rfl, rfl⟩

end Legend

namespace Row

/-- The numbers of the failed columns are machine words. -/
def Fits (row : Row) : Prop :=
  ∀ k ∈ row.failedColumns, k < UInt64.size

def Encodes : Json → Row → Prop :=
  EncodesRecord fieldNames <|
    EndsInPart (fun row => [.array (row.values.map .string)]) failedColumns
      (EncodesList EncodesCount)

def IsFaulty : Json → Prop :=
  IsFaultyRecord fieldNames (EndsFaulty (IsFaultyList IsFaultyCount))

theorem ofJson?_eq_some_iff
    {json : Json}
    {row : Row} :
    ofJson? json = some row ↔
      ∃ values, json.record? fieldNames = some values ∧
        EndsInPart (fun row => [.array (row.values.map .string)]) failedColumns
          (fun last failed => last.list? count? = some failed) values row := by
  rw [ofJson?, Option.bind_eq_bind, Option.bind_eq_some_iff]
  refine exists_congr fun values => and_congr_right fun _ => ?_
  constructor
  · intro h
    split at h
    · simp only [Option.bind_eq_bind, Option.bind_eq_some_iff, Option.pure_def, Option.some.injEq,
        list?_string?_eq_some_iff] at h
      obtain ⟨_, rfl, failed, hfailed, rfl⟩ := h
      exact ⟨_, rfl, hfailed⟩
    · cases h
  · rintro ⟨last, rfl, hfailed⟩
    simp [list?_string?_eq_some_iff.mpr rfl, hfailed]

theorem isLawful :
    IsLawfulRecord fieldNames toJson ofJson? Fits Encodes IsFaulty :=
  isLawfulRecord_of_part isLawful_count.list (by decide) (fun _ _ => ofJson?_eq_some_iff)
    fun _ => ⟨rfl, rfl⟩

end Row

namespace Report

def Fits (report : Report) : Prop :=
  ∀ row ∈ report.rows, row.Fits

def Encodes : Json → Report → Prop :=
  EncodesRecord fieldNames <|
    EndsInPart (fun report => [.array (report.headers.map .string)]) rows
      (EncodesList Row.Encodes)

def IsFaulty : Json → Prop :=
  IsFaultyRecord fieldNames (EndsFaulty (IsFaultyList Row.IsFaulty))

theorem ofJson?_eq_some_iff
    {json : Json}
    {report : Report} :
    ofJson? json = some report ↔
      ∃ values, json.record? fieldNames = some values ∧
        EndsInPart (fun report => [.array (report.headers.map .string)]) rows
          (fun last rows => last.list? Row.ofJson? = some rows) values report := by
  rw [ofJson?, Option.bind_eq_bind, Option.bind_eq_some_iff]
  refine exists_congr fun values => and_congr_right fun _ => ?_
  constructor
  · intro h
    split at h
    · simp only [Option.bind_eq_bind, Option.bind_eq_some_iff, Option.pure_def, Option.some.injEq,
        list?_string?_eq_some_iff] at h
      obtain ⟨_, rfl, rows, hrows, rfl⟩ := h
      exact ⟨_, rfl, hrows⟩
    · cases h
  · rintro ⟨last, rfl, hrows⟩
    simp [list?_string?_eq_some_iff.mpr rfl, hrows]

theorem isLawful :
    IsLawfulRecord fieldNames toJson ofJson? Fits Encodes IsFaulty :=
  isLawfulRecord_of_part Row.isLawful.list (by decide) (fun _ _ => ofJson?_eq_some_iff)
    fun _ => ⟨rfl, rfl⟩

end Report

namespace Content

/-- The content of a document is encoded in one way, but for what the object with the reason may
hold besides. -/
inductive Encodes : Json → Content → Prop where
  | loaded
      (text : String) :
      Encodes (.object [("Loaded", .string text)]) (.loaded text)
  | unreadable
      {members : List (String × Json)}
      {reason : String}
      (hreason : HasFields ["reason"] [.string reason] (.object members)) :
      Encodes (.object [("Unreadable", .object members)]) (.unreadable reason)

/-- The object that should give a reason has none. -/
inductive IsFaulty : Json → Prop where
  | lacking
      {members : List (String × Json)}
      (hlacking : "reason" ∉ members.map Prod.fst) :
      IsFaulty (.object [("Unreadable", .object members)])

theorem ofJson?_eq_some_iff
    {json : Json}
    {content : Content} :
    ofJson? json = some content ↔
      (∃ text, json = .object [("Loaded", .string text)] ∧ content = .loaded text) ∨
        ∃ members reason,
          json = .object [("Unreadable", .object members)] ∧
            (object members).record? ["reason"] = some [.string reason] ∧
              content = .unreadable reason := by
  constructor
  · intro h
    unfold ofJson? at h
    split at h
    · next name value =>
        split at h
        · next hname =>
            obtain ⟨text, htext, rfl⟩ := Option.map_eq_some_iff.mp h
            obtain rfl := string?_eq_some_iff.mp htext
            exact Or.inl ⟨text, by rw [hname], rfl⟩
        · split at h
          · next hname =>
              obtain ⟨found, hfound, h⟩ := Option.bind_eq_some_iff.mp h
              obtain ⟨reason, hreason, rfl⟩ := Option.map_eq_some_iff.mp h
              obtain rfl := string?_eq_some_iff.mp hreason
              obtain ⟨members, rfl, hrecord⟩ := member?_eq_some_iff.mp hfound
              exact Or.inr ⟨members, reason, by rw [hname], hrecord, rfl⟩
          · cases h
    · cases h
  · rintro (⟨text, rfl, rfl⟩ | ⟨members, reason, rfl, hrecord, rfl⟩)
    · rfl
    · have hmember : (object members).member? "reason" = some (.string reason) :=
        member?_eq_some_iff.mpr ⟨members, rfl, hrecord⟩
      simp [ofJson?, hmember]

theorem isLawful :
    IsLawful toJson ofJson? (fun _ => True) Encodes IsFaulty where
  encodes_write := by
    rintro (text | reason) -
    · exact .loaded text
    · exact .unreadable (hasFields_object (by decide) rfl)
  read_of_encodes := by
    rintro json content hencodes
    rw [ofJson?_eq_some_iff]
    cases hencodes with
    | loaded text => exact Or.inl ⟨text, rfl, rfl⟩
    | unreadable hreason => exact Or.inr ⟨_, _, rfl, hreason.record?_eq, rfl⟩
  encodes_of_read := by
    intro json content hjson hread
    obtain ⟨text, rfl, rfl⟩ | ⟨members, reason, rfl, hrecord, rfl⟩ := ofJson?_eq_some_iff.mp hread
    · exact .loaded text
    · cases hjson with
      | object _ hvalues =>
          have hmembers : (object members).DistinctNames := hvalues ("Unreadable", _) (by simp)
          exact .unreadable (hasFields_of_record? (by decide) hmembers hrecord)
  fits_of_read := fun _ _ _ => trivial
  read_of_isFaulty := by
    rintro json ⟨hlacking⟩
    rw [Option.eq_none_iff_forall_ne_some]
    intro content hread
    obtain ⟨text, hjson, -⟩ | ⟨members, reason, hjson, hrecord, -⟩ := ofJson?_eq_some_iff.mp hread
    · simp at hjson
    · obtain rfl : _ = members := by
        simpa using hjson
      rw [record?_of_lacking List.mem_cons_self hlacking] at hrecord
      cases hrecord

end Content

namespace SourceDocument

def Encodes : Json → SourceDocument → Prop :=
  EncodesRecord fieldNames <|
    EndsInPart (fun document => [.string document.identifier, .string document.path.text]) content
      Content.Encodes

def IsFaulty : Json → Prop :=
  IsFaultyRecord fieldNames (EndsFaulty Content.IsFaulty)

theorem ofJson?_eq_some_iff
    {json : Json}
    {document : SourceDocument} :
    ofJson? json = some document ↔
      ∃ values, json.record? fieldNames = some values ∧
        EndsInPart (fun document => [.string document.identifier, .string document.path.text])
          content (fun last content => Content.ofJson? last = some content) values document := by
  rw [ofJson?, Option.bind_eq_bind, Option.bind_eq_some_iff]
  refine exists_congr fun values => and_congr_right fun _ => ?_
  constructor
  · intro h
    split at h
    · simp only [Option.bind_eq_bind, Option.bind_eq_some_iff, Option.pure_def, Option.some.injEq,
        string?_eq_some_iff] at h
      obtain ⟨_, rfl, _, rfl, content, hcontent, rfl⟩ := h
      exact ⟨_, rfl, hcontent⟩
    · cases h
  · rintro ⟨last, rfl, hcontent⟩
    simp [hcontent]

theorem isLawful :
    IsLawfulRecord fieldNames toJson ofJson? (fun _ => True) Encodes IsFaulty :=
  isLawfulRecord_of_part Content.isLawful (by decide) (fun _ _ => ofJson?_eq_some_iff)
    fun _ => ⟨rfl, rfl⟩

end SourceDocument

/--
Legends, reports and documents, and the records that they consist of, survive as JSON: what is
written of them is read back, the parsed values that are read are the encodings of what they are
read as, the object and the array with the same fields are read alike, and what lacks a field or
has an integer out of range is rejected.
-/
theorem Json.records_survive :
    SurvivesAsRecord Segment.fieldNames Segment.toJson Segment.ofJson? Segment.Fits
      Segment.Encodes Segment.IsFaulty ∧
    SurvivesAsRecord Column.fieldNames Column.toJson Column.ofJson? Column.Fits
      Column.Encodes Column.IsFaulty ∧
    SurvivesAsRecord Legend.fieldNames Legend.toJson Legend.ofJson? Legend.Fits
      Legend.Encodes Legend.IsFaulty ∧
    SurvivesAsRecord Row.fieldNames Row.toJson Row.ofJson? Row.Fits Row.Encodes Row.IsFaulty ∧
    SurvivesAsRecord Report.fieldNames Report.toJson Report.ofJson? Report.Fits
      Report.Encodes Report.IsFaulty ∧
    Survives Content.toJson Content.ofJson? (fun _ => True) Content.Encodes Content.IsFaulty ∧
    SurvivesAsRecord SourceDocument.fieldNames SourceDocument.toJson SourceDocument.ofJson?
      (fun _ => True) SourceDocument.Encodes SourceDocument.IsFaulty :=
  ⟨Segment.isLawful.survivesAsRecord, Column.isLawful.survivesAsRecord,
    Legend.isLawful.survivesAsRecord, Row.isLawful.survivesAsRecord,
    Report.isLawful.survivesAsRecord, Content.isLawful.survives,
    SourceDocument.isLawful.survivesAsRecord⟩

/-- A report with its members shuffled, one more among them, and an array for its row is read, and
read again when it is written.  It is not without its headers, nor with a number in its row that
does not fit into a word. -/
theorem Json.records_survive_of_shuffled_members :
    let rows : Json :=
      .array [.array [.array [.string "a.xml", .string "Error!"], .array [.integer 0]]]
    let headers : Json := .array [.string "File Name", .string "Age"]
    let json : Json := .object [("rows", rows), ("note", .null), ("headers", headers)]
    let report : Report := ⟨["File Name", "Age"], [⟨["a.xml", "Error!"], [0]⟩]⟩
    let large : Json := .array [.array [], .array [.integer 18446744073709551616]]
    json.DistinctNames ∧ Report.Encodes json report ∧
      Report.ofJson? report.toJson = some report ∧
      Report.ofJson? (.object [("rows", rows)]) = none ∧
      Report.ofJson? (.array [headers, .array [large]]) = none := by
  intro rows headers json report large
  obtain ⟨-, -, -, -, hreport, -, -⟩ := records_survive
  have hjson : json.DistinctNames := by
    refine .object (by decide) ?_
    simp only [List.forall_mem_cons]
    refine ⟨?_, .null, ?_, by simp⟩
    · exact .array <| List.forall_mem_singleton.mpr <| .array <| List.forall_mem_cons.mpr
        ⟨.array (by simp [DistinctNames.string]),
          List.forall_mem_singleton.mpr (.array (by simp [DistinctNames.integer]))⟩
    · exact .array (by simp [DistinctNames.string])
  have hread : Report.ofJson? json = some report := by
    rfl
  refine ⟨hjson, (hreport.read_iff json report hjson).mp hread,
    hreport.read_again json report hread, ?_, ?_⟩
  · have hlacking : "headers" ∉ [("rows", rows)].map Prod.fst := by
      decide
    exact hreport.read_of_isFaulty _ (.lacking List.mem_cons_self hlacking)
  · have hnumber : IsFaultyCount (.integer 18446744073709551616) :=
      .outOfRange (Or.inr (Int.le_refl _))
    have hlarge : Row.IsFaulty large :=
      .wrong (.array rfl) ⟨[_], _, rfl, _, rfl, _, List.mem_cons_self, hnumber⟩
    exact hreport.read_of_isFaulty _ <|
      .wrong (.array rfl) ⟨[_], _, rfl, _, rfl, large, List.mem_cons_self, hlarge⟩

end LegendReport
