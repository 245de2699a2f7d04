import Feuilleton.Template.Access

/-!
# Layouts

A layout says, in this order and all of it optional: a fill character and an alignment, how the
sign is shown, the alternate form, filling up with zeros, the width, a separator of digits, the
precision and the type of presentation.
-/

namespace Feuilleton.Template

inductive Alignment
  | left
  | right
  | center
  | afterSign
  deriving DecidableEq, Repr

def Alignment.ofChar? : Char → Option Alignment
  | '<' => some .left
  | '>' => some .right
  | '^' => some .center
  | '=' => some .afterSign
  | _ => none

/-- Which signs are shown: only minus, plus as well, or a blank in place of plus. -/
inductive SignStyle
  | minus
  | plus
  | blank
  deriving DecidableEq, Repr

structure Layout where
  fill : Char := ' '
  align : Alignment
  sign : Option SignStyle := none
  positiveZero : Bool := false
  alternate : Bool := false
  width : Option Nat := none
  separator : Option Char := none
  precision : Option Nat := none
  type : Char
  deriving DecidableEq, Repr

namespace Layout

/-- The number at the beginning; none if there is no digit. -/
def takeNumber (value : Option Nat) : List Char → Except Error (Option Nat × List Char)
  | [] => .ok (value, [])
  | c :: rest =>
      match Text.digitValue? c with
      | none => .ok (value, c :: rest)
      | some digit =>
          let next := 10 * value.getD 0 + digit
          if maxIndex < next then .error .numberTooLong else takeNumber (some next) rest

/-- Fill character and alignment, as far as they are given. -/
def takeAlignment : List Char → Option Char × Option Alignment × List Char
  | c :: d :: rest =>
      match Alignment.ofChar? d with
      | some align => (some c, some align, rest)
      | none =>
          match Alignment.ofChar? c with
          | some align => (none, some align, d :: rest)
          | none => (none, none, c :: d :: rest)
  | [c] =>
      match Alignment.ofChar? c with
      | some align => (none, some align, [])
      | none => (none, none, [c])
  | [] => (none, none, [])

def takeSign : List Char → Option SignStyle × List Char
  | '+' :: rest => (some .plus, rest)
  | '-' :: rest => (some .minus, rest)
  | ' ' :: rest => (some .blank, rest)
  | rest => (none, rest)

def takeMark (mark : Char) : List Char → Bool × List Char
  | c :: rest => if c = mark then (true, rest) else (false, c :: rest)
  | [] => (false, [])

def takeSeparator (cs : List Char) : Except Error (Option Char × List Char) :=
  match takeMark ',' cs with
  | (true, '_' :: _) => .error .bothSeparators
  | (true, rest) => .ok (some ',', rest)
  | (false, rest) =>
      match takeMark '_' rest with
      | (true, ',' :: _) => .error .bothSeparators
      | (true, rest) => .ok (some '_', rest)
      | (false, rest) => .ok (none, rest)

def takePrecision : List Char → Except Error (Option Nat × List Char)
  | '.' :: rest => do
      let (precision, rest) ← takeNumber none rest
      if precision.isNone then .error .missingPrecision else .ok (precision, rest)
  | rest => .ok (none, rest)

/-- Types that may be shown with a separator; other bases only with the underscore. -/
def admitsSeparator (separator type : Char) : Bool :=
  "defgEG%F".toList.contains type || (separator == '_' && "boxX".toList.contains type)

/-- Reads a layout for a value of the given kind. -/
def read (kind : String) (align : Alignment) (type : Char) (cs : List Char) :
    Except Error Layout := do
  let (fill?, align?, rest) := takeAlignment cs
  let (sign, rest) := takeSign rest
  let (positiveZero, rest) := takeMark 'z' rest
  let (alternate, rest) := takeMark '#' rest
  let (zeros, rest) := if fill?.isNone then takeMark '0' rest else (false, rest)
  let (width, rest) ← takeNumber none rest
  let (separator, rest) ← takeSeparator rest
  let (precision, rest) ← takePrecision rest
  let type ← match rest with
    | [] => pure type
    | [type] => pure type
    | _ => .error (.invalidLayout (String.ofList cs) kind)
  if let some separator := separator then
    if !admitsSeparator separator type then .error (.separatorWith separator type)
  .ok {
    fill := fill?.getD (if zeros then '0' else ' ')
    align := align?.getD (if zeros && align == .right then .afterSign else align)
    sign, positiveZero, alternate, width, separator, precision, type }

end Layout

end Feuilleton.Template
