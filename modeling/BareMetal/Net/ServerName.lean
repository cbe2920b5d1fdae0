import BareMetal.Net.SocketAddress

/-!
# Names of servers

The name that the certificate of a server has to be made out to: a name of the domain name system,
or an address.
-/

namespace BareMetal.ServerName

/-- How many characters a name may have. -/
def maxLength : Nat := 253

/-- How many characters a label of a name may have. -/
def maxLabelLength : Nat := 63

/-- Whether a character may stand in a label. -/
def isLabelChar (c : Char) : Bool := c.isAlphanum || c == '-' || c == '_'

/-- Whether a text is a label, which a hyphen neither begins nor ends. -/
def isLabel (text : List Char) : Bool :=
  !text.isEmpty && decide (text.length ≤ maxLabelLength) && text.all isLabelChar &&
    text.head? != some '-' && text.getLast? != some '-'

/-- The labels of a name, with points between them and perhaps one at the end. -/
def labels (text : List Char) : List (List Char) :=
  let labels := text.splitOn '.'
  if labels.getLast? = some [] then labels.dropLast else labels

/-- Whether a text is a name of the domain name system, the last label of which is no number. -/
def isDomain (text : List Char) : Bool :=
  decide (text.length ≤ maxLength) && (labels text).all isLabel &&
    (labels text).getLast?.any fun label => !label.all Char.isDigit

/-- Whether a text is an address. -/
def isAddress (text : List Char) : Bool :=
  let isWhole (found : Option (List Nat × List Char)) := found.any fun found => found.2.isEmpty
  isWhole (SocketAddress.readV4 text) || isWhole (SocketAddress.readV6 text)

/-- Whether a text can be the name of a server. -/
def isName (text : String) : Bool := isDomain text.toList || isAddress text.toList

end BareMetal.ServerName
