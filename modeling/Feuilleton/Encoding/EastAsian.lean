import Feuilleton.Encoding.Chinese
import Feuilleton.Encoding.Designated
import Feuilleton.Encoding.Korean

/-!
# East Asian encodings

The encodings in which most characters take two bytes or more, by name. Later editions of a
Japanese encoding are read as the edition of 1990.
-/

namespace Feuilleton.Encoding

inductive EastAsian
  | shiftedJapanese (roman : Bool)
  | windowsJapanese
  | markedJapanese
  | nationalChinese
  | extendedChinese
  | unifiedChinese
  | sevenBitChinese
  | bigFive
  | windowsTaiwan
  | hongKong
  | nationalKorean
  | orderedKorean
  | combinedKorean
  | designated (profile : Designated.Profile)
  deriving DecidableEq, Repr

namespace EastAsian

def ofName? (name : String) : Option EastAsian :=
  match name with
  | "shift_jis" => some (.shiftedJapanese false)
  | "shift_jis_2004" | "shift_jisx0213" => some (.shiftedJapanese true)
  | "cp932" => some .windowsJapanese
  | "euc_jp" | "euc_jis_2004" | "euc_jisx0213" => some .markedJapanese
  | "gb2312" => some .nationalChinese
  | "gbk" => some .extendedChinese
  | "gb18030" => some .unifiedChinese
  | "hz" => some .sevenBitChinese
  | "big5" => some .bigFive
  | "cp950" => some .windowsTaiwan
  | "big5hkscs" => some .hongKong
  | "euc_kr" => some .nationalKorean
  | "cp949" => some .orderedKorean
  | "johab" => some .combinedKorean
  | "iso2022_jp" | "iso2022_jp_3" | "iso2022_jp_2004" => some (.designated Designated.japanese)
  | "iso2022_jp_1" => some (.designated Designated.japaneseWithSupplement)
  | "iso2022_jp_2" => some (.designated Designated.multilingual)
  | "iso2022_jp_ext" => some (.designated Designated.japaneseWithKana)
  | "iso2022_kr" => some (.designated Designated.korean)
  | _ => none

def decodeList (encoding : EastAsian) (bytes : Bytes) : List Char :=
  match encoding with
  | shiftedJapanese roman => Japanese.decodeShifted roman bytes
  | windowsJapanese => Japanese.decodeWindows bytes
  | markedJapanese => Japanese.decodeMarked bytes
  | nationalChinese => Chinese.decodeNational bytes
  | extendedChinese => Chinese.decodeExtended bytes
  | unifiedChinese => Chinese.decodeUnified bytes
  | sevenBitChinese => Chinese.decodeSevenBit bytes
  | bigFive => Chinese.decodeBigFive bytes
  | windowsTaiwan => Chinese.decodeWindows bytes
  | hongKong => Chinese.decodeHongKong bytes
  | nationalKorean => Korean.decodeNational bytes
  | orderedKorean => Korean.decodeOrdered bytes
  | combinedKorean => Korean.decodeCombined bytes
  | designated profile => Designated.decode profile bytes

end EastAsian

end Feuilleton.Encoding
