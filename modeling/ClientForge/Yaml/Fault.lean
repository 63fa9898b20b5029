/-!
Why a YAML text has no value.
-/

namespace ClientForge.Yaml

/-- What is wrong with a YAML text. -/
inductive Fault where
  /-- The text breaks a rule of the language. -/
  | malformed
  /-- A number that cannot be read, a date that the calendar does not have, or a character code
  beyond the last character. -/
  | badValue
  /-- A truth value of another spelling. -/
  | unknownWord
  /-- A number without a digit. -/
  | emptyNumber
  /-- A point in time of another spelling. -/
  | badMoment
  /-- A point in time written as a mapping. -/
  | momentOfMapping
  /-- A number or a character code too great to compute with. -/
  | tooGreat
deriving DecidableEq, Repr

end ClientForge.Yaml
