import EvServer.Lib.Rounding

/-!
# Numbers and dates (`utils/Utils.ts`)

Amounts are computed by the server with `decimal.js`; they are exact rationals
here.  An absent number, `null` and `0` behave alike wherever the source tests a
number for truth or hands it to `createDecimal`, so a numeric property that is
only read in these ways has the value `0` when it is not set.

A date is its number of milliseconds, as `Date.getTime` returns it.
-/

namespace EvServer

/-- Milliseconds since the epoch. -/
abbrev Timestamp := ℤ

/-- A JavaScript number: an exact decimal or `NaN`. -/
inductive JsNumber
  | nan
  | num (value : ℚ)
  deriving DecidableEq, Repr

namespace JsNumber

/-- The value, unless it is `NaN`. -/
def value? : JsNumber → Option ℚ
  | nan => none
  | num value => some value

@[simp] theorem value?_nan : nan.value? = none := rfl

@[simp] theorem value?_num (value : ℚ) : (num value).value? = some value := rfl

/-- Arithmetic on a number keeps `NaN`. -/
def map (f : ℚ → ℚ) : JsNumber → JsNumber
  | nan => nan
  | num value => num (f value)

/-- `property > 0`; an absent property and `NaN` compare false. -/
def isPositive : Option JsNumber → Bool
  | some (num value) => 0 < value
  | _ => false

/-- `property < bound`; an absent property and `NaN` compare false. -/
def isBelow (bound : ℚ) : Option JsNumber → Bool
  | some (num value) => value < bound
  | _ => false

/-- `property > bound`; an absent property and `NaN` compare false. -/
def isAbove (bound : ℚ) : Option JsNumber → Bool
  | some (num value) => bound < value
  | _ => false

/-- `Utils.convertToFloat` on a numeric property: what is falsy becomes `0`. -/
def toFloat : Option JsNumber → ℚ
  | some (num value) => value
  | _ => 0

/-- `!property` on a numeric property. -/
def isFalsy (property : Option JsNumber) : Bool := toFloat property = 0

end JsNumber

namespace Utils

/-- Whitespace that `parseFloat` skips before the literal. -/
def isBlank (c : Char) : Bool := c = ' ' || c = '\t' || c = '\n' || c = '\r'

/-- The value of a list of decimal digits. -/
def digitsValue (digits : List Char) : ℕ :=
  digits.foldl (fun n c => 10 * n + (c.toNat - '0'.toNat)) 0

/-- An optional sign before a literal or an exponent. -/
def parseSign : List Char → ℤ × List Char
  | '-' :: rest => (-1, rest)
  | '+' :: rest => (1, rest)
  | rest => (1, rest)

/-- The exponent part of a literal; text that is no exponent counts for nothing. -/
def parseExponent : List Char → ℤ
  | c :: rest =>
      if c = 'e' || c = 'E' then
        let (sign, digits) := parseSign rest
        sign * digitsValue (digits.takeWhile Char.isDigit)
      else 0
  | [] => 0

/-- The fraction digits that follow a decimal point, and the text behind them. -/
def parseFraction : List Char → List Char × List Char
  | '.' :: rest => (rest.takeWhile Char.isDigit, rest.dropWhile Char.isDigit)
  | rest => ([], rest)

/-- The global `parseFloat` on decimal literals: the longest prefix that is one,
`NaN` when there is none. -/
def parseFloat (text : String) : JsNumber :=
  let (sign, rest) := parseSign (text.toList.dropWhile isBlank)
  let whole := rest.takeWhile Char.isDigit
  let (fraction, tail) := parseFraction (rest.dropWhile Char.isDigit)
  if whole.isEmpty && fraction.isEmpty then .nan
  else
    .num (sign * digitsValue (whole ++ fraction)
      * (10 : ℚ) ^ (parseExponent tail - fraction.length))

example : parseFloat "12.50 kWh" = .num (25 / 2) := by decide +kernel

/-- `Utils.roundTo`: round half up at the given scale. -/
def roundTo (value : ℚ) (scale : ℕ) : ℚ :=
  Rounding.roundHalfUp (value * 10 ^ scale) / 10 ^ scale

/-- `Utils.truncTo`: truncate at the given scale. -/
def truncTo (value : ℚ) (scale : ℕ) : ℚ :=
  Rounding.truncate (value * 10 ^ scale) / 10 ^ scale

/-- `moment(finish).diff(moment(start), 'seconds')`: whole seconds, towards zero. -/
def diffSeconds (finish start : Timestamp) : ℤ := (finish - start).tdiv 1000

/-- The seconds between two dates with their milliseconds. -/
def durationSecs (finish start : Timestamp) : ℚ := (finish - start : ℤ) / 1000

/-- A truncated amount, in units of the scale, is the integer part. -/
theorem truncTo_mul_pow (value : ℚ) (scale : ℕ) :
    truncTo value scale * 10 ^ scale = Rounding.truncate (value * 10 ^ scale) := by
  unfold truncTo
  exact div_mul_cancel₀ _ (pow_ne_zero scale (by norm_num))

/-- Rounding at a scale moves a value by at most half a unit of it. -/
theorem abs_roundTo_sub_le (value : ℚ) (scale : ℕ) :
    |roundTo value scale - value| ≤ 1 / 2 / 10 ^ scale := by
  have unit : (0 : ℚ) < 10 ^ scale := by positivity
  have moved := Rounding.abs_roundHalfUp_sub_le (value * 10 ^ scale)
  have scaled : roundTo value scale - value =
      ((Rounding.roundHalfUp (value * 10 ^ scale) : ℚ) - value * 10 ^ scale) / 10 ^ scale := by
    unfold roundTo
    field_simp
  rw [scaled, abs_div, abs_of_pos unit]
  gcongr

end Utils

end EvServer
