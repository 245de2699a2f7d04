import Feuilleton.Vocabulary.Label

/-!
# Fields of the information block

The fields that stand beside a work's title, and the labels that introduce them.
-/

namespace Feuilleton

inductive InfoField
  | author
  | artist
  | status
  deriving DecidableEq, Repr

namespace InfoField

def name : InfoField → String
  | author => "author"
  | artist => "artist"
  | status => "status"

def labels : List (String × InfoField) := [
  ("الكاتب", author),
  ("author", author),
  ("auteur", author),
  ("autor", author),
  ("yazar", author),
  ("الحالة", status),
  ("status", status),
  ("statut", status),
  ("estado", status),
  ("durum", status),
  ("الفنان", artist),
  ("artist", artist),
  ("artiste", artist),
  ("artista", artist),
  ("çizer", artist)]

def ofLabel? (text : String) : Option InfoField :=
  labels.lookup (normalizeLabel text)

end InfoField

end Feuilleton
