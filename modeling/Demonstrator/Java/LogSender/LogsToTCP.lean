import Demonstrator.Text.Patterns
import Demonstrator.Text.Words
import Mathlib.Data.Nat.Digits.Defs

namespace LogSender

open Text

/-- The class `\s` of the patterns. -/
def isSpace (c : Char) : Bool := c ∈ [' ', '\t', '\r', '\n', '\x0b', '\x0c']

structure Word where
  text : List Char
  nonempty : text ≠ []
  spaceless : Spaceless isSpace text

def digits (width n : Nat) : List Char :=
  let shown := Nat.toDigits 10 n
  List.replicate (width - shown.length) '0' ++ shown

/-- The date of a day counted from 1970-01-01, in the proleptic Gregorian calendar. -/
def ofEpochDay (day : Int) : Int × Nat × Nat :=
  let shifted := day + 719468
  let era := shifted.fdiv 146097
  let dayOfEra := (shifted - era * 146097).toNat
  let yearOfEra := (dayOfEra - dayOfEra / 1460 + dayOfEra / 36524 - dayOfEra / 146096) / 365
  let dayOfYear := dayOfEra - (365 * yearOfEra + yearOfEra / 4 - yearOfEra / 100)
  let marchMonth := (5 * dayOfYear + 2) / 153
  let month := if marchMonth < 10 then marchMonth + 3 else marchMonth - 9
  (yearOfEra + era * 400 + if month ≤ 2 then 1 else 0, month, dayOfYear - (153 * marchMonth + 2) / 5 + 1)

def yearText (year : Int) : List Char :=
  (if year < 0 then ['-'] else if 9999 < year then ['+'] else []) ++ digits 4 year.natAbs

def fractionText (millis : Nat) : List Char :=
  if millis = 0 then [] else '.' :: ((digits 3 millis).reverse.dropWhile (· = '0')).reverse

/-- `DateTimeFormatter.ISO_LOCAL_DATE_TIME` of a time in milliseconds, in GMT. -/
def isoLocalDateTime (time : Int) : List Char :=
  let (year, month, day) := ofEpochDay (time.fdiv 86400000)
  let millis := (time.fmod 86400000).toNat
  yearText year ++ '-' :: digits 2 month ++ '-' :: digits 2 day ++ 'T' :: digits 2 (millis / 3600000) ++
    ':' :: digits 2 (millis / 60000 % 60) ++ ':' :: digits 2 (millis / 1000 % 60) ++ fractionText (millis % 1000)

def getLogLevel (level : Int) : List Char :=
  if level = 1 then "ERROR".toList
  else if level = 2 then "WARN".toList
  else if level = 3 then "INFO".toList
  else if level = 4 then "DEBUG".toList
  else "UNKNOWN".toList

structure LogEntry where
  time : Int
  symbolicName : Word
  level : Int
  message : List Char
  exception : Option (List Char)

def LogEntry.text (entry : LogEntry) : List Char :=
  entry.message ++ match entry.exception with
    | none => []
    | some exception => ' ' :: exception

structure LogsToTCP where
  hostname : Word
  frameworkUUID : Word

def LogsToTCP.line (logger : LogsToTCP) (entry : LogEntry) : List Char :=
  isoLocalDateTime entry.time ++ ' ' :: logger.hostname.text ++ ' ' :: logger.frameworkUUID.text ++
    ' ' :: entry.symbolicName.text ++ ' ' :: getLogLevel entry.level ++ ' ' :: entry.text

def LogsToTCP.stream (logger : LogsToTCP) (entries : List LogEntry) : List Char :=
  entries.flatMap fun entry => logger.line entry ++ ['\n']

structure Fields where
  time : List Char
  host : List Char
  bundle : List Char
  level : List Char
  msg : List Char
  deriving DecidableEq, Repr

def LogsToTCP.fields (logger : LogsToTCP) (entry : LogEntry) : Fields :=
  ⟨isoLocalDateTime entry.time, logger.hostname.text, entry.symbolicName.text, getLogLevel entry.level, entry.text⟩

/-- The named patterns of the filter whose definitions come with logstash. -/
structure Grok where
  TIMESTAMP_ISO8601 : Pattern Char
  IPORHOST : Pattern Char
  LOGLEVEL : List (List Char)

def SPACE : Pattern Char := .run isSpace 0

def NOTSPACE : Pattern Char := .run (fun c => !isSpace c) 1

def GREEDYDATA : Pattern Char := .run (· ≠ '\n') 0

def Grok.header (grok : Grok) : List (Pattern Char) :=
  [grok.TIMESTAMP_ISO8601, SPACE, grok.IPORHOST, SPACE, NOTSPACE, SPACE, .oneOf grok.LOGLEVEL, SPACE]

def Grok.filter (grok : Grok) (line : List Char) : Option Fields :=
  match search (grok.header ++ [GREEDYDATA]) line with
  | some [time, _, host, _, bundle, _, level, _, msg] => some ⟨time, host, bundle, level, msg⟩
  | _ => none

def Grok.received (grok : Grok) (stream : List Char) : List Fields :=
  (cutLines '\n' [] stream).filterMap grok.filter

def RoundTrip (grok : Grok) (logger : LogsToTCP) (entries : List LogEntry) : Prop :=
  grok.received (logger.stream entries) = entries.map logger.fields

end LogSender
