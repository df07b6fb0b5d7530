import RouteSync.Text.Split

/-! Host names: labels of letters, digits and hyphens, joined by dots. -/
namespace RouteSync.Net

def maxHostLength : Nat := 253
def maxLabelLength : Nat := 63

def isLabelChar (c : Char) : Bool := c.isAlphanum || c = '-'

/-- A label is not empty, not overlong, and begins and ends with a letter or a digit. -/
def isLabel (label : List Char) : Bool :=
  label ≠ [] && label.length ≤ maxLabelLength && label.head? ≠ some '-' &&
    label.getLast? ≠ some '-' && label.all isLabelChar

def isHostName (name : String) : Bool :=
  name.utf8ByteSize ≤ maxHostLength && (Text.splitOn '.' name.toList).all isLabel

/-- The characters of a name that stands for one running instance. -/
def isInstanceChar (c : Char) : Bool := c.isAlphanum || c = '-' || c = '_' || c = '.'

/-- The empty instance name is allowed and means that none is set. -/
def isInstanceName (name : String) : Bool :=
  name.utf8ByteSize ≤ maxHostLength && name.toList.all isInstanceChar

end RouteSync.Net
