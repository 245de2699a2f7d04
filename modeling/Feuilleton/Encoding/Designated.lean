import Feuilleton.Encoding.ChineseRuns
import Feuilleton.Encoding.Japanese
import Feuilleton.Encoding.KoreanRuns

/-!
# Encodings with designations

In seven bits, escape sequences say which set of characters the following bytes are taken from.
Two sets can be designated at a time; where shifts are used they change between both.
-/

namespace Feuilleton.Encoding.Designated

inductive CodeSet
  | ascii
  | roman
  | kana
  | jis
  | jisSupplement
  | national
  | korean
  deriving DecidableEq, Repr

def CodeSet.width : CodeSet → Nat
  | ascii | roman | kana => 1
  | jis | jisSupplement | national | korean => 2

/-- What an escape sequence designates: whether it names a set of pairs, and its last byte. -/
abbrev Designation := Bool × UInt8

structure Profile where
  designations : List (Designation × CodeSet)
  shifts : Bool := false
  deriving DecidableEq, Repr

def jisDesignations : List (Designation × CodeSet) :=
  [((true, 0x42), .jis), ((false, 0x4A), .roman), ((true, 0x40), .jis)]

def supplementDesignation : Designation × CodeSet := ((true, 0x44), .jisSupplement)

def japanese : Profile := { designations := jisDesignations }

def japaneseWithSupplement : Profile :=
  { designations := supplementDesignation :: jisDesignations }

def japaneseWithKana : Profile :=
  { designations := ((false, 0x49), .kana) :: supplementDesignation :: jisDesignations }

def multilingual : Profile where
  designations := ((true, 0x43), .korean) :: ((true, 0x41), .national) ::
    supplementDesignation :: jisDesignations

def korean : Profile := { designations := [((true, 0x43), .korean)], shifts := true }

/-! ## Characters -/

/-- The characters of a set by one byte, or by two. -/
abbrev Finder := CodeSet → Nat → Nat → Option Char

def finder (jis supplement national korean : CharacterSet) : Finder := fun set a b =>
  match set with
  | .ascii => some (Char.ofNat a)
  | .roman => some (Japanese.romanChar (UInt8.ofNat a))
  | .kana => if Japanese.isKana (a + 0x80) then some (Japanese.kana (a + 0x80)) else none
  | .jis => jis.find? (pairCode a b)
  | .jisSupplement => supplement.find? (pairCode a b)
  | .national => national.find? (pairCode a b)
  | .korean => korean.find? (pairCode a b)

/-! ## Escape sequences -/

def endsEscape (b : UInt8) : Bool :=
  (0x41 ≤ b && b ≤ 0x5A) || b == 0x40

def beginsDesignation (b : UInt8) : Bool :=
  b == 0x28 || b == 0x29 || b == 0x24 || b == 0x2E || b == 0x26

inductive Extent
  | ends (length : Nat)
  | endless
  | cut
  deriving DecidableEq, Repr

/-- An escape sequence has no more bytes than this. -/
def escapeLimit : Nat := 16

/-- How long an escape sequence is, `seen` bytes of which have been read. The announcement of a
newer edition does not end it, nor does the byte after it. -/
def extent (announced : Bool) (skip seen : Nat) : Bytes → Extent
  | [] => if seen + skip < escapeLimit then .cut else .endless
  | b :: rest =>
      if 0 < skip then extent announced (skip - 1) (seen + 1) rest
      else if escapeLimit ≤ seen then .endless
      else if endsEscape b then .ends (seen + 1)
      else
        let skip := if announced && b == 0x26 && rest.head? == some 0x40 then 2 else 0
        extent announced skip (seen + 1) rest

/-- Which set an escape sequence designates: whether it is the first or the second one, whether it
has pairs of bytes, and its last byte. -/
def designation? (announced : Bool) (bytes : Bytes) : Option (Bool × Designation) :=
  match bytes with
  | [_, 0x24, c] => some (true, true, c)
  | [_, 0x28, c] => some (true, false, c)
  | [_, 0x29, c] => some (false, false, c)
  | [_, 0x24, 0x28, c] => some (true, true, c)
  | [_, 0x24, 0x29, c] => some (false, true, c)
  | [_, _, _, 0x1B, 0x24, 0x42] => if announced then some (true, true, 0x42) else none
  | _ => none

def Profile.set? (profile : Profile) (designation : Designation) : Option CodeSet :=
  if designation = (false, 0x42) then some .ascii
  else profile.designations.lookup designation

/-! ## Steps -/

/-- The designated sets. An escape sequence that designates nothing is passed on as it stands. -/
structure State where
  first : CodeSet := .ascii
  second : CodeSet := .ascii
  shifted : Bool := false
  passing : Bool := false
  deriving DecidableEq, Repr

def byteStep (b : UInt8) : Step :=
  .taken [Char.ofNat b.toNat] 1

def escapeStep (profile : Profile) (state : State) (bytes : Bytes) : Step × State :=
  let announced := !profile.shifts
  match extent announced 0 1 (bytes.drop 1) with
  | .cut => (.cut, state)
  | .endless => (.wrong 1, state)
  | .ends length =>
      let found := (designation? announced (bytes.take length)).bind fun (isFirst, designation) =>
        (profile.set? designation).map fun set =>
          if isFirst then { state with first := set } else { state with second := set }
      match found with
      | some state => (.taken [] length, state)
      | none => (.wrong length, state)

def characterStep (find : Finder) (set : CodeSet) (b : UInt8) (rest : Bytes) : Step :=
  if set.width ≤ 1 then
    match find set b.toNat 0 with
    | some c => .taken [c] 1
    | none => .wrong 1
  else
    match rest with
    | [] => .cut
    | c :: _ =>
        match find set b.toNat c.toNat with
        | some c => .taken [c] 2
        | none => .wrong 2

def step (find : Finder) (profile : Profile) (state : State) (b : UInt8) (rest : Bytes) :
    Step × State :=
  if state.passing then (byteStep b, { state with passing := !endsEscape b })
  else if b = 0x1B then
    match rest with
    | [] => (.cut, state)
    | c :: _ =>
        if beginsDesignation c then escapeStep profile state (b :: rest)
        else (byteStep b, { state with passing := true })
  else if b = 0x0F ∧ profile.shifts then (.taken [] 1, { state with shifted := false })
  else if b = 0x0E ∧ profile.shifts then (.taken [] 1, { state with shifted := true })
  else if b = 0x0A then (byteStep b, { state with shifted := false })
  else if b < 0x20 then (byteStep b, state)
  else if !isAscii b then (.wrong 1, state)
  else (characterStep find (if state.shifted then state.second else state.first) b rest, state)

def decode (profile : Profile) (bytes : Bytes) : List Char :=
  let find := finder (.ofRuns jisRuns) (.ofRuns jisSupplementRuns) (.ofRuns nationalRuns)
    (.ofRuns koreanRuns)
  decodeSteps (step find profile) {} 0 bytes

end Feuilleton.Encoding.Designated
