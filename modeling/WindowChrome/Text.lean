/-! # Reading values out of text -/

namespace WindowChrome.Text

/-- The characters with the property `White_Space`, in code point order. -/
def blanks : List Char :=
  ['\u0009', '\u000a', '\u000b', '\u000c', '\u000d', '\u0020', '\u0085',
    '\u00a0', '\u1680', '\u2000', '\u2001', '\u2002', '\u2003', '\u2004',
    '\u2005', '\u2006', '\u2007', '\u2008', '\u2009', '\u200a', '\u2028',
    '\u2029', '\u202f', '\u205f', '\u3000']

def isBlank (c : Char) : Bool := blanks.contains c

def trim (text : String) : String :=
  let rest := text.toList.dropWhile isBlank
  String.ofList (rest.reverse.dropWhile isBlank).reverse

def digits? (cs : List Char) : Option Nat :=
  if cs.isEmpty || !cs.all Char.isDigit then none
  else some (cs.foldl (fun value c => 10 * value + (c.toNat - '0'.toNat)) 0)

/-- A number without a sign, or with a plus sign. -/
def readNat? (text : String) : Option Nat :=
  match text.toList with
  | '+' :: rest => digits? rest
  | cs => digits? cs

def readInt? (text : String) : Option Int :=
  match text.toList with
  | '-' :: rest => (digits? rest).map fun value => -(value : Int)
  | '+' :: rest => (digits? rest).map fun value => (value : Int)
  | cs => (digits? cs).map fun value => (value : Int)

def readBool? (text : String) : Option Bool :=
  if text = "true" then some true
  else if text = "false" then some false
  else none

end WindowChrome.Text
