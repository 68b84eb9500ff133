import FoodDelivery.Lib.Csv
import FoodDelivery.Orders.SalesReport

/-!
# The export of the sales report

`csvField` and `csvRow`, and `sendSalesReportCsv`, which makes a file of the delivered orders.  How
a number prints is left open but for the characters it is made of.

* `csvWriter`: what each cell reads back as, unless it keeps a bare CR.
* `isReadable_row`: which of the texts of an order may hold one.
* `sales_report_decodes_iff`: when the file reads back as what was exported.
-/

namespace FoodDelivery

namespace SalesReportCsv

/-! ## Cells -/

/-- A character of a number. -/
def isNumeral (c : Char) : Bool := c.isDigit || c = '-' || c = '+' || c = '.' || c = 'e'

/-- `String` on numbers. -/
structure NumberFormat where
  string : ℚ → String
  isNumeral_of_mem : ∀ x, ∀ c ∈ (string x).toList, isNumeral c = true

inductive CsvValue
  | string (value : String)
  | number (value : ℚ)
  deriving DecidableEq

/-- `/^[=+\-@\t\r]/`. -/
def startsFormula (value : String) : Bool :=
  value.toList.head?.any fun c =>
    c = '=' || c = '+' || c = '-' || c = '@' || c = '\t' || c = '\r'

/-- `/[",\n]/`, on one character. -/
def needsQuotes (c : Char) : Bool := c = '\x22' || c = ',' || c = '\n'

/-- A leading single quote keeps a value from being a formula. -/
def neutralized (value : String) : String := if startsFormula value then "'" ++ value else value

/-- `replace(/"/g, '""')`. -/
def doubleQuotes (str : String) : String :=
  .ofList (str.toList.flatMap fun c => if c = '\x22' then ['\x22', '\x22'] else [c])

section Format

variable (format : NumberFormat)

def csvField : CsvValue → String
  | .number value => format.string value
  | .string value =>
    let str := neutralized value
    if str.toList.any needsQuotes then "\x22" ++ doubleQuotes str ++ "\x22" else str

def csvRow (fields : List CsvValue) : String := ",".intercalate (fields.map (csvField format))

end Format

/-! ## Dates -/

/-- The decimal digits of a number, `width` of them at least. -/
def padded (width n : Nat) : List Char :=
  let digits := (toString n).toList
  List.replicate (width - digits.length) '0' ++ digits

/-- Year, month and day of a day since 1970-01-01, counted in years from March and in eras of 400
years. -/
def civilFromDays (days : Nat) : Nat × Nat × Nat :=
  let z := days + 719468
  let dayOfEra := z % 146097
  let yearOfEra :=
    (dayOfEra - dayOfEra / 1460 + dayOfEra / 36524 - dayOfEra / 146096) / 365
  let dayOfYear := dayOfEra - (365 * yearOfEra + yearOfEra / 4 - yearOfEra / 100)
  let fromMarch := (5 * dayOfYear + 2) / 153
  let month := if fromMarch < 10 then fromMarch + 3 else fromMarch - 9
  let year := yearOfEra + z / 146097 * 400 + if month ≤ 2 then 1 else 0
  (year, month, dayOfYear - (153 * fromMarch + 2) / 5 + 1)

/-- `Date.prototype.toISOString`. -/
def toISOString (time : Time) : String :=
  let ms := time % 86400000
  let (year, month, day) := civilFromDays (time / 86400000)
  let yearDigits := if year ≤ 9999 then padded 4 year else '+' :: padded 6 year
  .ofList (yearDigits ++ '-' :: padded 2 month ++ '-' :: padded 2 day ++
    'T' :: padded 2 (ms / 3600000) ++ ':' :: padded 2 (ms / 60000 % 60) ++
    ':' :: padded 2 (ms / 1000 % 60) ++ '.' :: padded 3 (ms % 1000) ++ ['Z'])

example : toISOString 1709210096789 = "2024-02-29T12:34:56.789Z" := by decide

/-! ## The file -/

/-- What the export reads of an order. -/
structure ReportedOrder extends FulfilledOrder where
  orderNumber : String
  deriving DecidableEq

namespace ReportedOrder

def cogs (order : ReportedOrder) : ℚ≥0 := (order.created.items.map OrderItem.cogs).sum

def row (order : ReportedOrder) : List CsvValue :=
  let amounts := order.created.amounts
  [ .string order.orderNumber,
    .string ((order.deliveredAt.map toISOString).getD ""),
    .string ("; ".intercalate
      (order.created.items.map fun item => item.name ++ " x" ++ toString item.qty)),
    .number amounts.subtotal,
    .number amounts.deliveryFee,
    .number amounts.serviceFee,
    .number amounts.discount,
    .number amounts.tax,
    .number amounts.total,
    .number amounts.platformFeeAmount,
    .number amounts.restaurantPayoutAmount,
    .number (round2 order.cogs),
    .number (round2 (amounts.subtotal - order.cogs)),
    .string (order.created.promoCode.getD "") ]

end ReportedOrder

def header : List CsvValue :=
  [ .string "Order number",
    .string "Delivered at",
    .string "Items",
    .string "Subtotal",
    .string "Delivery fee",
    .string "Service fee",
    .string "Discount",
    .string "Tax",
    .string "Total",
    .string "Platform fee",
    .string "Seller payout",
    .string "COGS",
    .string "Gross profit",
    .string "Promo code" ]

/-- What is exported, cell by cell. -/
def table (orders : List ReportedOrder) : List (List CsvValue) :=
  header :: orders.map ReportedOrder.row

structure CsvResponse where
  contentType : String
  contentDisposition : String
  body : String
  deriving DecidableEq

def sendSalesReportCsv (format : NumberFormat) (orders : List ReportedOrder)
    (sellerId : String) : CsvResponse where
  contentType := "text/csv; charset=utf-8"
  contentDisposition := "attachment; filename=\x22sales-report-" ++ sellerId ++ ".csv\x22"
  body := "\r\n".intercalate ((table orders).map (csvRow format))

/-! ## What a cell reads back as -/

/-- If one of the texts has a CR, one of them has a character for which they are quoted. -/
def quotesLineBreaks (texts : List String) : Bool :=
  !texts.any (·.toList.any (· = '\r')) || texts.any (·.toList.any needsQuotes)

namespace CsvValue

/-- The value, or that of a formula after the single quote, which leaves no formula. -/
def ReadsAs (format : NumberFormat) : CsvValue → String → Prop
  | .number value, cell => cell = format.string value
  | .string value, cell =>
    (cell = value ∨ startsFormula value = true ∧ cell = "'" ++ value) ∧ startsFormula cell = false

def decoded (format : NumberFormat) : CsvValue → String
  | .number value => format.string value
  | .string value => neutralized value

def isReadable : CsvValue → Bool
  | .number _ => true
  | .string value => quotesLineBreaks [value]

end CsvValue

theorem toList_neutralized (value : String) : (neutralized value).toList = value.toList ∨
    (neutralized value).toList = '\'' :: value.toList := by
  unfold neutralized
  split
  · rw [String.toList_append]
    exact Or.inr rfl
  · exact Or.inl rfl

theorem startsFormula_neutralized (value : String) : startsFormula (neutralized value) = false := by
  unfold neutralized
  split
  · rw [startsFormula, String.toList_append]
    rfl
  · next h => exact Bool.eq_false_iff.mpr h

theorem readsAs_decoded (format : NumberFormat) (v : CsvValue) :
    v.ReadsAs format (v.decoded format) := by
  cases v with
  | number value => exact rfl
  | string value =>
    refine ⟨?_, startsFormula_neutralized value⟩
    rw [CsvValue.decoded, neutralized]
    split
    · next h => exact Or.inr ⟨h, rfl⟩
    · exact Or.inl rfl

/-- The single quote is neither quoted nor a line break. -/
theorem any_neutralized {p : Char → Bool} (hp : p '\'' = false) (value : String) :
    (neutralized value).toList.any p = value.toList.any p := by
  rcases toList_neutralized value with h | h
  · rw [h]
  · rw [h, List.any_cons, hp, Bool.false_or]

theorem escaped_doubleQuotes (str : String) : Csv.Escaped (doubleQuotes str).toList str.toList := by
  rw [doubleQuotes, String.toList_ofList]
  induction str.toList with
  | nil => exact .nil
  | cons c cs ih =>
    rw [List.flatMap_cons]
    by_cases hc : c = '\x22'
    · subst hc
      exact .quote ih
    · rw [if_neg hc]
      exact .char hc ih

theorem isSpecial_eq (c : Char) : Csv.isSpecial c = (needsQuotes c || decide (c = '\r')) := by
  rw [Csv.isSpecial, needsQuotes, Csv.dquote]
  grind

theorem isSpecial_of_isNumeral {c : Char} (h : isNumeral c = true) : Csv.isSpecial c = false := by
  refine Csv.isSpecial_eq_false.mpr ⟨⟨?_, ?_, ?_⟩, ?_⟩ <;>
    · rintro rfl
      exact absurd h (by decide)

theorem field_csvField (format : NumberFormat) {v : CsvValue} (h : v.isReadable = true) :
    Csv.Field (csvField format v).toList (v.decoded format).toList := by
  cases v with
  | number value =>
    exact .bare fun c hc => isSpecial_of_isNumeral (format.isNumeral_of_mem value c hc)
  | string value =>
    simp only [csvField, CsvValue.decoded]
    by_cases hquoted : (neutralized value).toList.any needsQuotes = true
    · rw [if_pos hquoted, String.toList_append, String.toList_append]
      exact .quoted (escaped_doubleQuotes _)
    · have hcr : (neutralized value).toList.any (· = '\r') = false := by
        rw [any_neutralized rfl] at hquoted ⊢
        simpa [CsvValue.isReadable, quotesLineBreaks, hquoted] using h
      rw [if_neg hquoted]
      refine .bare fun c hc => ?_
      rw [isSpecial_eq, Bool.or_eq_false_iff]
      rw [Bool.not_eq_true, List.any_eq_false] at hquoted
      exact ⟨Bool.eq_false_iff.mpr (hquoted c hc),
        Bool.eq_false_iff.mpr (List.any_eq_false.mp hcr c hc)⟩

theorem stray_csvField (format : NumberFormat) {v : CsvValue} (h : ¬ v.isReadable = true) :
    Csv.Stray (csvField format v).toList := by
  cases v with
  | number value => exact absurd rfl h
  | string value =>
    have hparts : value.toList.any (· = '\r') = true ∧ value.toList.any needsQuotes = false := by
      simpa [CsvValue.isReadable, quotesLineBreaks] using h
    obtain ⟨hcr, hquoted⟩ := hparts
    rw [← any_neutralized rfl] at hcr hquoted
    simp only [csvField]
    rw [if_neg (Bool.eq_false_iff.mp hquoted)]
    refine ⟨by simpa using hcr, fun c hc => ?_⟩
    have hc := Bool.eq_false_iff.mpr (List.any_eq_false.mp hquoted c hc)
    simp only [needsQuotes, Bool.or_eq_false_iff, decide_eq_false_iff_not] at hc
    exact ⟨hc.1.2, hc.1.1, hc.2⟩

/-- How the cells of an export are written. -/
def csvWriter (format : NumberFormat) : Csv.Writer CsvValue where
  encode v := (csvField format v).toList
  decode v := (v.decoded format).toList
  Safe v := v.isReadable = true
  field _ h := field_csvField format h
  stray _ h := stray_csvField format h

/-! ## The texts of an order -/

theorem isNumeral_of_mem_toString {n : Nat} : ∀ c ∈ (toString n).toList, isNumeral c = true := by
  intro c hc
  rw [Nat.toString_eq_repr, Nat.toList_repr] at hc
  rw [isNumeral, Nat.isDigit_of_mem_toDigits (by decide) (by decide) hc]
  rfl

theorem isNumeral_of_mem_padded {width n : Nat} : ∀ c ∈ padded width n, isNumeral c = true := by
  intro c hc
  rcases List.mem_append.mp hc with hc | hc
  · rw [List.eq_of_mem_replicate hc]
    rfl
  · exact isNumeral_of_mem_toString c hc

theorem isSpecial_of_mem_toISOString {time : Time} :
    ∀ c ∈ (toISOString time).toList, Csv.isSpecial c = false := by
  have hpadded : ∀ {width n : Nat}, ∀ c ∈ padded width n, Csv.isSpecial c = false :=
    fun c hc => isSpecial_of_isNumeral (isNumeral_of_mem_padded c hc)
  have hyear : ∀ year : Nat, ∀ c ∈ if year ≤ 9999 then padded 4 year else '+' :: padded 6 year,
      Csv.isSpecial c = false := by
    intro year
    split
    · exact hpadded
    · exact List.forall_mem_cons.mpr ⟨rfl, hpadded⟩
  rw [toISOString, String.toList_ofList]
  simp only [List.forall_mem_append, List.forall_mem_cons]
  exact ⟨⟨⟨⟨⟨⟨⟨hyear _, rfl, hpadded⟩, rfl, hpadded⟩, rfl, hpadded⟩, rfl, hpadded⟩, rfl, hpadded⟩,
    rfl, hpadded⟩, rfl, List.forall_mem_nil _⟩

section Texts

variable {p : Char → Bool} (hp : ∀ c, p c = true → Csv.isSpecial c = true)

include hp

theorem any_eq_false {cs : List Char} (h : ∀ c ∈ cs, Csv.isSpecial c = false) :
    cs.any p = false := by
  rw [List.any_eq_false]
  intro c hc hpc
  exact absurd (hp c hpc) (Bool.eq_false_iff.mp (h c hc))

theorem any_item (name : String) (qty : Nat) :
    (name ++ " x" ++ toString qty).toList.any p = name.toList.any p := by
  have hqty : (toString qty).toList.any p = false :=
    any_eq_false hp fun c hc => isSpecial_of_isNumeral (isNumeral_of_mem_toString c hc)
  have hsep : " x".toList.any p = false := any_eq_false hp (by simp [Csv.isSpecial, Csv.dquote])
  rw [String.toList_append, String.toList_append, List.any_append, List.any_append, hqty, hsep,
    Bool.or_false, Bool.or_false]

theorem any_items (items : List OrderItem) :
    ("; ".intercalate (items.map fun item => item.name ++ " x" ++ toString item.qty)).toList.any p =
      (items.map (·.name)).any (·.toList.any p) := by
  induction items with
  | nil => simp
  | cons item items ih =>
    by_cases hlast : items = []
    · subst hlast
      rw [List.map_singleton, String.intercalate_singleton, any_item hp, List.map_singleton,
        List.any_cons, List.any_nil, Bool.or_false]
    · have hsep : "; ".toList.any p = false :=
        any_eq_false hp (by simp [Csv.isSpecial, Csv.dquote])
      rw [List.map_cons, String.intercalate_cons_of_ne_nil (by simpa using hlast),
        String.toList_append, String.toList_append, List.any_append, List.any_append, any_item hp,
        hsep, ih, Bool.or_false, List.map_cons, List.any_cons]

end Texts

theorem isSpecial_of_cr (c : Char) (h : decide (c = '\r') = true) : Csv.isSpecial c = true := by
  rw [isSpecial_eq, h, Bool.or_true]

theorem isSpecial_of_needsQuotes (c : Char) (h : needsQuotes c = true) :
    Csv.isSpecial c = true := by
  rw [isSpecial_eq, h, Bool.true_or]

theorem isReadable_of_plain {value : String} (h : ∀ c ∈ value.toList, Csv.isSpecial c = false) :
    (CsvValue.string value).isReadable = true := by
  have hcr := any_eq_false isSpecial_of_cr h
  rw [CsvValue.isReadable, quotesLineBreaks, List.any_cons, List.any_nil, hcr]
  rfl

theorem isReadable_header : ∀ v ∈ header, v.isReadable = true := by decide

namespace ReportedOrder

/-- No text of the order has a bare CR. -/
def quotesLineBreaks (order : ReportedOrder) : Bool :=
  SalesReportCsv.quotesLineBreaks [order.orderNumber] &&
    SalesReportCsv.quotesLineBreaks (order.created.items.map (·.name)) &&
    SalesReportCsv.quotesLineBreaks order.created.promoCode.toList

theorem isReadable_row (order : ReportedOrder) :
    (∀ v ∈ order.row, v.isReadable = true) ↔ order.quotesLineBreaks = true := by
  have hitems : (CsvValue.string ("; ".intercalate
      (order.created.items.map fun item => item.name ++ " x" ++ toString item.qty))).isReadable =
      SalesReportCsv.quotesLineBreaks (order.created.items.map (·.name)) := by
    rw [CsvValue.isReadable, SalesReportCsv.quotesLineBreaks, List.any_cons, List.any_cons,
      List.any_nil, List.any_nil, Bool.or_false, Bool.or_false, any_items isSpecial_of_cr,
      any_items isSpecial_of_needsQuotes, SalesReportCsv.quotesLineBreaks]
  have hdate : (CsvValue.string
      ((order.deliveredAt.map toISOString).getD "")).isReadable = true := by
    cases order.deliveredAt with
    | none => rfl
    | some time => exact isReadable_of_plain isSpecial_of_mem_toISOString
  have hpromo : (CsvValue.string (order.created.promoCode.getD "")).isReadable =
      SalesReportCsv.quotesLineBreaks order.created.promoCode.toList := by
    cases order.created.promoCode <;> rfl
  simp only [row, List.forall_mem_cons, hitems, hdate, hpromo, quotesLineBreaks]
  simp [CsvValue.isReadable, and_assoc]

end ReportedOrder

/-! ## The file reads back -/

/-- A file of what was exported, and of nothing else. -/
def ReadsBack (format : NumberFormat) (orders : List ReportedOrder) (text : String) : Prop :=
  ∃ rows : List (List String),
    (∀ values, Csv.File text.toList values ↔ values = rows.map (·.map String.toList)) ∧
      List.Forall₂ (List.Forall₂ (CsvValue.ReadsAs format)) (table orders) rows

theorem toList_csvRow (format : NumberFormat) (fields : List CsvValue) :
    (csvRow format fields).toList = (csvWriter format).renderRow fields := by
  rw [csvRow, String.toList_intercalate, List.map_map]
  rfl

theorem toList_body (format : NumberFormat) (orders : List ReportedOrder) (sellerId : String) :
    (sendSalesReportCsv format orders sellerId).body.toList =
      (csvWriter format).render (table orders) := by
  have hrows : String.toList ∘ csvRow format = (csvWriter format).renderRow :=
    funext (toList_csvRow format)
  rw [sendSalesReportCsv, String.toList_intercalate, List.map_map, hrows]
  rfl

theorem length_of_mem_table {orders : List ReportedOrder} {row : List CsvValue}
    (h : row ∈ table orders) : row.length = 14 := by
  rcases List.mem_cons.mp h with rfl | h
  · rfl
  · obtain ⟨order, -, rfl⟩ := List.mem_map.mp h
    rfl

theorem isReadable_table {orders : List ReportedOrder} :
    (∀ row ∈ table orders, ∀ v ∈ row, v.isReadable = true) ↔
      ∀ order ∈ orders, order.quotesLineBreaks = true := by
  rw [table, List.forall_mem_cons, List.forall_mem_map, and_iff_right isReadable_header]
  exact forall₂_congr fun order _ => order.isReadable_row

section Main

variable {format : NumberFormat} {orders : List ReportedOrder} {sellerId : String}

theorem readsBack_of_quotesLineBreaks (h : ∀ order ∈ orders, order.quotesLineBreaks = true) :
    ReadsBack format orders (sendSalesReportCsv format orders sellerId).body := by
  have hrows : ∀ row ∈ table orders, 2 ≤ row.length := by
    intro row hrow
    rw [length_of_mem_table hrow]
    decide
  have hne : table orders ≠ [] := List.cons_ne_nil _ _
  have hread := Csv.Writer.file_render_iff (w := csvWriter format) hne hrows
    (isReadable_table.mpr h)
  refine ⟨(table orders).map (·.map (·.decoded format)), fun values => ?_, ?_⟩
  · rw [toList_body, hread, List.map_map]
    simp [csvWriter, Function.comp_def]
  · rw [List.forall₂_map_right_iff, List.forall₂_same]
    intro row _
    rw [List.forall₂_map_right_iff, List.forall₂_same]
    exact fun v _ => readsAs_decoded format v

theorem quotesLineBreaks_of_readsBack
    (h : ReadsBack format orders (sendSalesReportCsv format orders sellerId).body) :
    ∀ order ∈ orders, order.quotesLineBreaks = true := by
  obtain ⟨rows, hread, -⟩ := h
  have hfile := (hread _).mpr rfl
  rw [toList_body] at hfile
  rw [← isReadable_table]
  by_contra hstray
  simp only [not_forall, exists_prop] at hstray
  refine Csv.Writer.not_file_render (fun row hrow => ?_) hstray _ hfile
  exact List.ne_nil_of_length_pos (by rw [length_of_mem_table hrow]; decide)

end Main

/-- **The export reads back as what was exported** if and only if no text of an order keeps a bare
CR: one that has a CR also has a comma, a quote or an LF, for which it is quoted. -/
theorem sales_report_decodes_iff (format : NumberFormat) (orders : List ReportedOrder)
    (sellerId : String) :
    ReadsBack format orders (sendSalesReportCsv format orders sellerId).body ↔
      ∀ order ∈ orders, order.quotesLineBreaks = true :=
  ⟨quotesLineBreaks_of_readsBack, readsBack_of_quotesLineBreaks⟩

/-- Whole cents, as `String` prints them. -/
def centsFormat : NumberFormat where
  string x :=
    let cents := (mathRound (|x| * 100)).toNat
    let fraction := cents % 100
    .ofList ((if x < 0 then ['-'] else []) ++ padded 1 (cents / 100) ++
      if fraction = 0 then []
      else '.' :: if fraction % 10 = 0 then padded 1 (fraction / 10) else padded 2 fraction)
  isNumeral_of_mem x := by
    have hpadded := @isNumeral_of_mem_padded
    rw [String.toList_ofList]
    simp only [List.forall_mem_append]
    refine ⟨⟨?_, hpadded⟩, ?_⟩
    · split <;> simp [isNumeral]
    · split
      · exact List.forall_mem_nil _
      · refine List.forall_mem_cons.mpr ⟨rfl, ?_⟩
        split <;> exact hpadded

/-- A plate of `Jollof` and `rice`, with a CR between the words. -/
def jollofOrder : ReportedOrder where
  created := {
    customerId := 1
    seller := .restaurant 1
    items := [⟨some 1, none, "Jollof\rrice", 1, none, none, 2, [], ""⟩]
    amounts := ⟨2, 3, 1, 0, 0, 6, 3 / 10, 17 / 10⟩
    currency := "USD"
    paymentProvider := .stripe
    deliveryInstructions := ""
    scheduledFor := none
    promoCode := none
    redeemedPromoCodeId := none }
  status := .delivered
  deliveredAt := some 1709210096789
  orderNumber := "ORD-LT7Z2Q1H-4F09AC"

theorem bare_cr_unreadable : ¬ ReadsBack centsFormat [jollofOrder]
    (sendSalesReportCsv centsFormat [jollofOrder] "1").body := by
  intro h
  exact absurd (quotesLineBreaks_of_readsBack h jollofOrder (List.mem_singleton_self _))
    (by decide)

end SalesReportCsv

end FoodDelivery
