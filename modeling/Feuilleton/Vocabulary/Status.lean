import Feuilleton.Vocabulary.Label

/-!
# Publication status

The status of a work and the words by which sites of several languages name it.
-/

namespace Feuilleton

inductive Status
  | ongoing
  | completed
  | onHiatus
  | unknown
  deriving DecidableEq, Repr

namespace Status

def name : Status → String
  | ongoing => "Ongoing"
  | completed => "Completed"
  | onHiatus => "On Hiatus"
  | unknown => "Unknown"

def names : List (String × Status) :=
  [ongoing, completed, onHiatus, unknown].map fun status => (status.name, status)

def keywords : List (String × Status) := [
  ("مكتملة", completed),
  ("completed", completed),
  ("complété", completed),
  ("completo", completed),
  ("completado", completed),
  ("tamamlandı", completed),
  ("مستمرة", ongoing),
  ("ongoing", ongoing),
  ("en cours", ongoing),
  ("em andamento", ongoing),
  ("en progreso", ongoing),
  ("devam ediyor", ongoing),
  ("متوقفة", onHiatus),
  ("hiatus", onHiatus),
  ("en pause", onHiatus),
  ("hiato", onHiatus),
  ("pausa", onHiatus),
  ("pausado", onHiatus),
  ("duraklatıldı", onHiatus)]

/-- The status that a text names; `unknown` where it names none. -/
def ofText (text : String) : Status :=
  (keywords.lookup (normalizeLabel text)).getD unknown

end Status

end Feuilleton
