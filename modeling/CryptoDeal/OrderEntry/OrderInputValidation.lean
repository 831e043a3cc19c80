import CryptoDeal.DealService.SymbolRuleValidator
import CryptoDeal.Library.FixedNotation

/-!
# `OrderInputValidation`

The checks of a typed amount or price: its characters, its size, the increment
and the bounds of the symbol, and the number of places after the point. A limit
that cannot be formatted for the error text throws.
-/

namespace CryptoDeal.OrderEntry

open DealService DecimalConverter SymbolRuleValidator DecimalText

structure DecimalInputValidation where
  value : Option Decimal := none
  correction : Option Decimal := none
  error : String := ""
  deriving DecidableEq

def DecimalInputValidation.isValid (validation : DecimalInputValidation) : Bool :=
  validation.value.isSome && validation.error = ""

namespace OrderInputValidation

def maxSignificantDigits : ℕ := 34

/-- The loop of `hasFixedDecimalSyntax`; `none` is its early return. -/
def countCharacters (text : List Char) (digitCount decimalPointCount : ℕ) : Option (ℕ × ℕ) :=
  match text with
  | [] => some (digitCount, decimalPointCount)
  | character :: rest =>
      if character.isDigit then countCharacters rest (digitCount + 1) decimalPointCount
      else if character = '.' then countCharacters rest digitCount (decimalPointCount + 1)
      else none

def hasFixedDecimalSyntax (text : List Char) : Bool :=
  if text.isEmpty then false
  else
    match countCharacters text 0 0 with
    | none => false
    | some (digitCount, decimalPointCount) => 0 < digitCount && decimalPointCount ≤ 1

/-- One turn of the loop of `getSignificantDigitCount`. -/
def countSignificant (counted : Bool × ℕ) (character : Char) : Bool × ℕ :=
  if ¬ character.isDigit then counted
  else
    let foundNonZeroDigit := counted.1 || character != '0'
    (foundNonZeroDigit, if foundNonZeroDigit then counted.2 + 1 else counted.2)

def getSignificantDigitCount (text : List Char) : ℕ :=
  max (text.foldl countSignificant (false, 0)).2 1

def getFractionalDigitCount (text : List Char) : ℕ :=
  match text.findIdx? (· == '.') with
  | none => 0
  | some decimalPoint => text.length - decimalPoint - 1

def normalizeDecimalText (text : List Char) : List Char :=
  let text := if text.head? = some '.' then '0' :: text else text
  if text.getLast? = some '.' then text ++ ['0'] else text

def parsePositiveDecimal (fromChars : String → Option Decimal) (input : String) :
    DecimalInputValidation :=
  if input.toList.isEmpty then { error := "Enter a value." }
  else if ¬ hasFixedDecimalSyntax input.toList then
    { error := "Use fixed decimal notation, for example 0.25." }
  else if maxSignificantDigits < getSignificantDigitCount input.toList then
    { error := "Use no more than 34 significant digits." }
  else
    match parseDecimal fromChars (String.ofList (normalizeDecimalText input.toList)) with
    | .error _ => { error := "Use a decimal value within the supported range." }
    | .ok value =>
        if value ≤ 0 then { error := "Value must be greater than 0." } else { value := some value }

/-- What `validateQuantity` and `validatePrice` take from the symbol, and their texts. -/
structure DecimalField where
  validate : NearestRounding → Decimal → SymbolInfo → SymbolRuleValidation
  increment : SymbolInfo → Decimal
  exchangePrecision : SymbolInfo → ℤ
  minimum : SymbolInfo → Decimal
  maximum : SymbolInfo → Decimal
  unavailable : SymbolRuleViolation
  mismatch : SymbolRuleViolation
  belowMinimum : SymbolRuleViolation
  aboveMaximum : SymbolRuleViolation
  unavailableText : String
  mismatchText : String
  belowMinimumText : String
  aboveMaximumText : String
  placesText : String
  otherText : String

def quantityField : DecimalField where
  validate := SymbolRuleValidator.validateQuantity
  increment := SymbolInfo.stepSize
  exchangePrecision := SymbolInfo.qtyPrecision
  minimum := SymbolInfo.minQty
  maximum := SymbolInfo.maxQty
  unavailable := .quantityStepUnavailable
  mismatch := .quantityStepMismatch
  belowMinimum := .quantityBelowMinimum
  aboveMaximum := .quantityAboveMaximum
  unavailableText := "Quantity step information is unavailable."
  mismatchText := "Amount must use increments of "
  belowMinimumText := "Amount is below the minimum "
  aboveMaximumText := "Amount is above the maximum "
  placesText := "Amount supports at most "
  otherText := "Amount does not satisfy the selected symbol rules."

def priceField : DecimalField where
  validate := SymbolRuleValidator.validatePrice
  increment := SymbolInfo.tickSize
  exchangePrecision := SymbolInfo.pricePrecision
  minimum := SymbolInfo.minPrice
  maximum := SymbolInfo.maxPrice
  unavailable := .priceTickUnavailable
  mismatch := .priceTickMismatch
  belowMinimum := .priceBelowMinimum
  aboveMaximum := .priceAboveMaximum
  unavailableText := "Price tick information is unavailable."
  mismatchText := "Price must use ticks of "
  belowMinimumText := "Price is below the minimum "
  aboveMaximumText := "Price is above the maximum "
  placesText := "Price supports at most "
  otherText := "Price does not satisfy the selected symbol rules."

section Validation

variable (rounding : NearestRounding) (fromChars : String → Option Decimal)

def getAllowedDecimalPlaces (increment : Decimal) (exchangePrecision : ℤ) :
    Except ServiceFailure ℤ := do
  let incrementPrecision ← decimalsFromStep rounding increment
  return if 0 < exchangePrecision then min incrementPrecision exchangePrecision
    else incrementPrecision

def formatLimit (value increment : Decimal) : Except ServiceFailure String :=
  formatByStep rounding value increment

/-- `applyQuantityRuleValidation` and `applyPriceRuleValidation`. -/
def applyRuleValidation (field : DecimalField) (validation : DecimalInputValidation)
    (ruleValidation : SymbolRuleValidation) (symbolInfo : SymbolInfo) :
    Except ServiceFailure DecimalInputValidation := do
  let validation := { validation with correction := ruleValidation.correction }
  let increment := field.increment symbolInfo
  if ruleValidation.violation = field.unavailable then
    return { validation with error := field.unavailableText }
  if ruleValidation.violation = field.mismatch then
    let limit ← formatLimit rounding increment increment
    return { validation with error := field.mismatchText ++ limit ++ "." }
  if ruleValidation.violation = field.belowMinimum then
    let limit ← formatLimit rounding (field.minimum symbolInfo) increment
    return { validation with error := field.belowMinimumText ++ limit ++ "." }
  if ruleValidation.violation = field.aboveMaximum then
    let limit ← formatLimit rounding (field.maximum symbolInfo) increment
    return { validation with error := field.aboveMaximumText ++ limit ++ "." }
  if ruleValidation.violation = .none then return validation
  return { validation with error := field.otherText }

def validateField (field : DecimalField) (text : String) (symbolInfo : SymbolInfo) :
    Except ServiceFailure DecimalInputValidation := do
  let validation := parsePositiveDecimal fromChars text
  if ¬ validation.isValid then return validation
  let value := validation.value.getD 0
  let ruleValidation := field.validate rounding value symbolInfo
  if ruleValidation.violation = field.unavailable ∨
      ruleValidation.violation = field.mismatch then
    return (← applyRuleValidation rounding field validation ruleValidation symbolInfo)
  let allowedDecimalPlaces ←
    getAllowedDecimalPlaces rounding (field.increment symbolInfo)
      (field.exchangePrecision symbolInfo)
  if allowedDecimalPlaces < getFractionalDigitCount text.toList then
    return { validation with
      error := field.placesText ++ toString allowedDecimalPlaces ++ " decimal places." }
  if ¬ ruleValidation.isValid then
    return (← applyRuleValidation rounding field validation ruleValidation symbolInfo)
  return validation

def validateQuantity (text : String) (symbolInfo : SymbolInfo) :
    Except ServiceFailure DecimalInputValidation :=
  validateField rounding fromChars quantityField text symbolInfo

def validatePrice (text : String) (symbolInfo : SymbolInfo) :
    Except ServiceFailure DecimalInputValidation :=
  validateField rounding fromChars priceField text symbolInfo

def validateNotional (quantity price : Decimal) (symbolInfo : SymbolInfo) :
    Except ServiceFailure String := do
  let notional := quantity * price
  match (SymbolRuleValidator.validateNotional notional symbolInfo).violation with
  | .notionalBelowMinimum =>
      let notionalText ← formatDecimal rounding notional
      let limit ← formatDecimal rounding symbolInfo.minNotional
      return "Notional " ++ notionalText ++ " is below the minimum " ++ limit ++ "."
  | .notionalAboveMaximum =>
      let notionalText ← formatDecimal rounding notional
      let limit ← formatDecimal rounding symbolInfo.maxNotional
      return "Notional " ++ notionalText ++ " is above the maximum " ++ limit ++ "."
  | _ => return ""

end Validation

/-! ## The scans -/

theorem count_characters_eq (text : List Char) (digitCount decimalPointCount : ℕ) :
    countCharacters text digitCount decimalPointCount =
      if text.all fun char => char.isDigit || char == '.' then
        some (digitCount + (digitsOf text).length, decimalPointCount + text.count '.')
      else none := by
  induction text generalizing digitCount decimalPointCount with
  | nil => simp [countCharacters, digitsOf]
  | cons head tail ih =>
      rw [countCharacters, ih, ih]
      by_cases digit : head.isDigit
      · have notPoint : head ≠ '.' := by
          rintro rfl
          exact absurd digit (by decide)
        simp [digit, digitsOf, notPoint, Nat.add_assoc, Nat.add_comm 1]
      · by_cases point : head = '.'
        · subst point
          simp [digitsOf, Nat.add_assoc, Nat.add_comm 1]
        · simp [digit, point]

theorem has_fixed_decimal_syntax_iff (text : List Char) :
    hasFixedDecimalSyntax text ↔ FixedNotation text := by
  have someDigit : 0 < (digitsOf text).length ↔ ∃ char ∈ text, char.isDigit := by
    rw [List.length_pos_iff_exists_mem]
    simp [digitsOf]
  unfold hasFixedDecimalSyntax
  rw [count_characters_eq]
  constructor
  · intro accepted
    split_ifs at accepted with empty characters
    simp only [Nat.zero_add, Bool.and_eq_true, decide_eq_true_eq] at accepted
    refine ⟨fun char member => ?_, accepted.2, someDigit.1 accepted.1⟩
    simpa using List.all_eq_true.1 characters char member
  · rintro ⟨characters, onePoint, digit⟩
    have nonempty : text ≠ [] := by
      rintro rfl
      obtain ⟨char, member, -⟩ := digit
      cases member
    have allowed : text.all fun char => char.isDigit || char == '.' :=
      List.all_eq_true.2 fun char member => by simpa using characters char member
    simp [nonempty, allowed, someDigit.2 digit, onePoint]

theorem count_significant_found (text : List Char) (count : ℕ) :
    (text.foldl countSignificant (true, count)).2 = count + (digitsOf text).length := by
  induction text generalizing count with
  | nil => simp [digitsOf]
  | cons head tail ih =>
      by_cases digit : head.isDigit
      · simp [countSignificant, digit, ih, digitsOf, Nat.add_assoc, Nat.add_comm 1]
      · simp [countSignificant, digit, ih, digitsOf]

theorem significant_digit_count_eq (text : List Char) :
    getSignificantDigitCount text = max (significantDigits text).length 1 := by
  have counted : ∀ count, (text.foldl countSignificant (false, count)).2 =
      count + (significantDigits text).length := by
    induction text with
    | nil => simp [significantDigits, digitsOf]
    | cons head tail ih =>
        intro count
        by_cases digit : head.isDigit
        · by_cases zero : head = '0'
          · subst zero
            simp [countSignificant, ih, significantDigits, digitsOf]
          · have found : (head != '0') = true := by simpa using zero
            rw [List.foldl_cons]
            simp only [countSignificant, digit, found, Bool.false_or, not_true_eq_false, if_false,
              if_true, count_significant_found]
            simp [significantDigits, digitsOf, digit, zero, Nat.add_assoc, Nat.add_comm 1]
        · simp [countSignificant, digit, ih, significantDigits, digitsOf]
  rw [getSignificantDigitCount, counted, Nat.zero_add]

theorem fractional_digit_count_eq (text : List Char) :
    getFractionalDigitCount text = (fractionOf text).length := by
  induction text with
  | nil => rfl
  | cons head tail ih =>
      by_cases point : head = '.'
      · subst point
        simp [getFractionalDigitCount, fractionOf, List.findIdx?_cons]
      · rw [fractionOf, List.dropWhile_cons_of_pos (by simpa using point), ← fractionOf, ← ih]
        unfold getFractionalDigitCount
        rw [List.findIdx?_cons, if_neg (by simpa using point)]
        cases found : tail.findIdx? (· == '.') with
        | none => rfl
        | some position =>
            simp only [Option.map_some, List.length_cons]
            omega

theorem normalized_pointed {whole fraction : List Char} (digits : Digits whole)
    (fractionDigits : Digits fraction) :
    normalizeDecimalText (whole ++ '.' :: fraction) =
      (if whole = [] then ['0'] else whole) ++
        '.' :: (if fraction = [] then ['0'] else fraction) := by
  have front : (if (whole ++ '.' :: fraction).head? = some '.' then
      '0' :: (whole ++ '.' :: fraction) else whole ++ '.' :: fraction) =
        (if whole = [] then ['0'] else whole) ++ '.' :: fraction := by
    cases whole with
    | nil => rfl
    | cons head tail =>
        have notPoint : head ≠ '.' := by
          rintro rfl
          exact digits.noPoint (by simp)
        simp [notPoint]
  unfold normalizeDecimalText
  simp only [front]
  rcases List.eq_nil_or_concat fraction with rfl | ⟨init, last, rfl⟩
  · simp
  · rw [List.concat_eq_append] at fractionDigits ⊢
    have notPoint : last ≠ '.' := by
      rintro rfl
      exact fractionDigits.noPoint (by simp)
    have lastOne : ((if whole = [] then ['0'] else whole) ++
        '.' :: (init ++ [last])).getLast? = some last := by
      rw [← List.cons_append, ← List.append_assoc, List.getLast?_concat]
    have nonempty : init ++ [last] ≠ [] := by simp
    rw [lastOne, if_neg (fun same => notPoint (Option.some.inj same)), if_neg nonempty]

/-- The zeros around a bare point make the text readable and keep its value. -/
theorem normalized_value {text : List Char} (fixed : FixedNotation text) :
    decimalValue (normalizeDecimalText text) = some (denotedValue text) := by
  rcases fixed.shape with ⟨digits, nonempty⟩ | ⟨whole, fraction, digits, fractionDigits, -, rfl⟩
  · have unchanged : normalizeDecimalText text = text := by
      have head : text.head? ≠ some '.' := fun point =>
        digits.noPoint (List.mem_of_mem_head? point)
      have last : text.getLast? ≠ some '.' := fun point =>
        digits.noPoint (List.mem_of_mem_getLast? point)
      simp only [normalizeDecimalText, if_neg head, if_neg last]
    rw [unchanged]
    exact (IsFixedDecimal.value ((is_fixed_decimal_whole digits.noPoint).2 ⟨nonempty, digits⟩)).2
  · rw [normalized_pointed digits fractionDigits, denoted_value_pointed digits fractionDigits]
    set front := if whole = [] then ['0'] else whole with frontDef
    set back := if fraction = [] then ['0'] else fraction with backDef
    have frontNonempty : front ≠ [] := by rw [frontDef]; split_ifs <;> simp [*]
    have backNonempty : back ≠ [] := by rw [backDef]; split_ifs <;> simp [*]
    have frontDigits : Digits front := by rw [frontDef]; split_ifs; decide; exact digits
    have backDigits : Digits back := by rw [backDef]; split_ifs; decide; exact fractionDigits
    have frontValue : digitsValue front = digitsValue whole := by
      rw [frontDef]
      split_ifs with empty
      · rw [empty]; rfl
      · rfl
    have backValue : (digitsValue back : ℚ) / 10 ^ back.length =
        digitsValue fraction / 10 ^ fraction.length := by
      rw [backDef]
      split_ifs with empty
      · have zero : digitsValue ['0'] = 0 := rfl
        have none : digitsValue [] = 0 := rfl
        simp [empty, zero, none]
      · rfl
    obtain ⟨-, spelled⟩ := IsFixedDecimal.value
      ⟨front, frontNonempty, frontDigits, .inr ⟨back, backNonempty, backDigits, rfl⟩⟩
    rw [spelled, denoted_value_pointed frontDigits backDigits, frontValue, backValue]

end OrderInputValidation

end CryptoDeal.OrderEntry
