/-
# Conversions of cells

How a cell becomes a text, an integer, a floating-point number, a decimal number
or a list. Texts and bytes are read, numbers are converted with their fraction cut
off or rounded if there is memory for the result, and all other cells are refused. A text becomes the list of its
characters, bytes the list of their numbers and a dictionary the list of its
keys.

Key definitions: `toText`, `toInteger`, `toFloat`, `toDecimal`, `toItems`.
-/
import TableLoader.Error

namespace TableLoader

open Number

/-- The value, or the fault that there is none. -/
def orFault (fault : Fault) {α : Type} : Option α → Except Error α
  | some a => .ok a
  | none => .error (.fault fault)

namespace Cell

/-- The text of a cell that stands alone, if it can be written. -/
def toText (c : Cell) : Except Error String :=
  if c.isWritable then .ok c.display else .error (.fault .badValue)

/-- The number 1 or 0. -/
def flagNumber (b : Bool) : Int := if b then 1 else 0

/-- The integer that a cell stands for; a fraction is cut off. -/
def toInteger : Cell → Except Error Int
  | .flag b => .ok (flagNumber b)
  | .int n => .ok n
  | .float (.finite negative m e) => .ok (Binary64.truncate negative m e)
  | .float (.infinity _) => .error (.fault .overflow)
  | .float .nan => .error (.fault .badValue)
  | .decimal (.finite negative c e) =>
    if Decimal.isVast c e then .error (.fault .noMemory) else .ok (Decimal.truncate negative c e)
  | .decimal (.infinity _) => .error (.fault .overflow)
  | .decimal (.nan ..) => .error (.fault .badValue)
  | .text s => orFault .badValue (readInteger s)
  | .bytes bs => orFault .badValue (readIntegerBytes bs)
  | _ => .error (.fault .badType)

/-- The floating-point number that is nearest to what a cell stands for. -/
def toFloat : Cell → Except Error Binary64
  | .flag b => orFault .overflow (Binary64.ofInt? (flagNumber b))
  | .int n => orFault .overflow (Binary64.ofInt? n)
  | .float x => .ok x
  | .decimal (.finite negative c e) => .ok (Binary64.ofNumeral negative ⟨c, e⟩)
  | .decimal (.infinity negative) => .ok (.infinity negative)
  | .decimal (.nan _ signaling _) => if signaling then .error (.fault .badValue) else .ok .nan
  | .text s => orFault .badValue (Binary64.read s)
  | .bytes bs => orFault .badValue (Binary64.readBytes bs)
  | _ => .error (.fault .badType)

/-- The decimal number that the text of a cell stands for. -/
def toDecimal : Cell → Except Error Decimal
  | .decimal d => .ok d
  | c => do orFault .badDecimal (Decimal.read (← c.toText))

/-- The parts of a cell, in order. -/
def toItems : Cell → Except Error (List Cell)
  | .text s => .ok (s.toList.map fun c => .text (String.singleton c))
  | .bytes bs => .ok (bs.map fun b => .int b.toNat)
  | .list items => .ok items
  | .tuple items => .ok items
  | .dict entries => .ok (entries.map Prod.fst)
  | .row fields => .ok (fields.map Prod.snd)
  | _ => .error (.fault .badType)

end Cell
end TableLoader
