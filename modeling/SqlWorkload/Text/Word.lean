import SqlWorkload.Text.Lowercase
import SqlWorkload.Text.WordTable
/-!
# Word characters

The characters that names within a text are made of: letters, digits and numbers of any script.
-/

namespace SqlWorkload.Text

def isAlphanumeric (c : Char) : Bool := c.isAlphanum || inRanges alphanumericRanges c

end SqlWorkload.Text
