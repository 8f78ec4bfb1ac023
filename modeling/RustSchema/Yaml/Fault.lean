/-
  RustSchema.Yaml.Fault — why a YAML text has no value.

  Most faults are of form. The others are well formed and stand for nothing that can be had
  (`Unvalued`): a number without digits, a day that no calendar has, a character beyond the
  last one.
-/

import RustSchema.Text.Quoted

namespace RustSchema.Yaml

/-- What is said to be a value and is none. -/
inductive Unvalued where
  /-- A word, in lower case, that is no truth value. -/
  | truthWord (word : String)
  /-- A number of nothing, or an integer of nothing but a sign. -/
  | noNumber
  | noInteger (base : Nat) (text : String)
  /-- A decimal number with more digits than are read. -/
  | tooManyDigits (count : Nat)
  | noFloat (text : String)
  /-- A float in base sixty with a piece whose place value is beyond all floats. -/
  | placeTooLarge
  | noTime
  /-- A mapping in place of a time, though a default value gives it a text. -/
  | timeOfMapping
  | year
  | month
  | day
  | hour
  | minute
  | second
  /-- An offset from universal time, in minutes, of a whole day or more. -/
  | offset (minutes : Int)
  /-- The number of a character beyond the last one. -/
  | codePoint
  /-- The number of a character that does not even fit in 32 bits with sign. -/
  | wideCodePoint
  /-- A default value that leads back to itself. -/
  | endless
  deriving DecidableEq, Repr

inductive Fault where
  | malformed
  | unvalued (what : Unvalued)
  deriving DecidableEq, Repr

/-- The longest decimal number that is read or shown, in digits. -/
def longestNumber : Nat := 4300

/-- What is said of a number that is longer; `detail` says more of it. -/
def tooLongText (detail : String) : String :=
  "Exceeds the limit (" ++ toString longestNumber ++ " digits) for integer string conversion"
    ++ detail ++ "; use sys.set_int_max_str_digits() to increase the limit"

/-- A span of time in days and seconds, of which only the days can be negative. -/
def spanText (minutes : Int) : String :=
  let days := minutes.fdiv 1440
  let seconds := 60 * minutes.fmod 1440
  "datetime.timedelta(days=" ++ toString days
    ++ (if seconds = 0 then "" else ", seconds=" ++ toString seconds) ++ ")"

/-- The most characters that are shown of what is no integer. -/
def longestShown : Nat := 200

/-- A default value without end has no message of its own. -/
def Unvalued.message? : Unvalued → Option String
  | .truthWord word => some (Text.quoted word)
  | .noNumber => some "string index out of range"
  | .noInteger base text =>
    some ("invalid literal for int() with base " ++ toString base ++ ": "
      ++ String.ofList ((Text.quoted text).toList.take longestShown))
  | .tooManyDigits count => some (tooLongText (": value has " ++ toString count ++ " digits"))
  | .noFloat text => some ("could not convert string to float: " ++ Text.quoted text)
  | .placeTooLarge => some "int too large to convert to float"
  | .noTime => some "'NoneType' object has no attribute 'groupdict'"
  | .timeOfMapping => some "expected string or bytes-like object, got 'list'"
  | .year => some "year 0 is out of range"
  | .month => some "month must be in 1..12"
  | .day => some "day is out of range for month"
  | .hour => some "hour must be in 0..23"
  | .minute => some "minute must be in 0..59"
  | .second => some "second must be in 0..59"
  | .offset minutes =>
    some ("offset must be a timedelta strictly between -timedelta(hours=24) and "
      ++ "timedelta(hours=24), not " ++ spanText minutes ++ ".")
  | .codePoint => some "chr() arg not in range(0x110000)"
  | .wideCodePoint => some "Python int too large to convert to C int"
  | .endless => none

end RustSchema.Yaml
