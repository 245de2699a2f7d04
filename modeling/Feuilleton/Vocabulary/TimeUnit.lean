import Feuilleton.Text.Search

/-!
# Units of time

The words for units of time in the languages of the sites, finest unit first. A text names the
first unit of which a word occurs anywhere in it.
-/

namespace Feuilleton

inductive TimeUnit
  | second
  | minute
  | hour
  | day
  | week
  | month
  | year
  deriving DecidableEq, Repr

namespace TimeUnit

def name : TimeUnit → String
  | second => "second"
  | minute => "minute"
  | hour => "hour"
  | day => "day"
  | week => "week"
  | month => "month"
  | year => "year"

def keywords : List (TimeUnit × List String) := [
  (second, ["detik", "segundo", "second", "วินาที"]),
  (minute, ["menit", "dakika", "min", "minute", "minuto", "นาที", "دقائق"]),
  (hour, ["jam", "saat", "heure", "hora", "hour", "ชั่วโมง", "giờ", "ore", "ساعة", "小时"]),
  (day, ["hari", "gün", "jour", "día", "dia", "day", "วัน", "ngày", "giorni", "أيام", "天"]),
  (week, ["week", "semana"]),
  (month, ["month", "mes"]),
  (year, ["year", "año"])]

def inText? (text : String) : Option TimeUnit :=
  (keywords.find? fun (_, words) => words.any (Text.occursIn · text)).map (·.1)

end TimeUnit

end Feuilleton
